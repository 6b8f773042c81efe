import Workbench.Dev.Site
import Workbench.Proofs.Http.Target
import Workbench.Proofs.Reload.Window
import Workbench.Proofs.Static.Names

set_option autoImplicit false

namespace Workbench

open Http (Request)
open Text (byteLength byteLength_eq joinWith)
open Text.Percent (bytesOf decode decodeText? Escaped)

namespace Http.Uri

/-- A text that stands for itself as the path of a request: all of it is read as a path, and no
percent sign in it stands for something else. -/
structure Verbatim (text : List Char) : Prop where
  readable : ∀ char ∈ text, isPathChar char = true
  unescaped : ¬ ∃ before high low after, text = before ++ '%' :: high :: low :: after ∧
    (Text.hexDigit? high).isSome = true ∧ (Text.hexDigit? low).isSome = true
  short : byteLength text ≤ maxLength

theorem escaped_rooted_iff (text : List Char) :
    Escaped (bytesOf ('/' :: text)) ↔ Escaped (bytesOf text) := by
  have slash : bytesOf ('/' :: text) = 0x2F :: bytesOf text := by
    rw [Text.bytesOf_cons, Text.utf8EncodeChar_of_ascii (by decide)]
    rfl
  have other : (0x2F : UInt8) ≠ Text.Percent.percent := by decide
  rw [slash, Text.Percent.escaped_cons_iff]
  simp [other]

theorem rest_eq_nil {front ending path rest : List Char} (whole : front ++ ending = path ++ rest)
    (plain : ∀ char ∈ ending, isPathChar char = true)
    (stops : ∀ mark ∈ rest.head?, isPathChar mark = false)
    (long : byteLength front ≤ byteLength path) : rest = [] := by
  cases rest with
  | nil => rfl
  | cons mark after =>
      have foreign := stops mark rfl
      have inside : mark ∈ ending := by
        rcases List.append_eq_append_iff.mp whole with ⟨more, _, rest⟩ | ⟨more, rfl, rest⟩
        next => simp [rest]
        next =>
          rw [Text.byteLength_append] at long
          have nothing := (Text.byteLength_eq_zero_iff more).mp (by omega)
          rw [nothing, List.nil_append] at rest
          simp [← rest]
      rw [plain mark inside] at foreign
      contradiction

end Http.Uri

open Http.Uri (Verbatim isPathChar)

namespace Assets

-- The directory of the site is `home`, and there is a file at `names` behind it.
structure Stores (assets : Assets) (home names : Place) (content : ByteArray) : Prop where
  treeNamed : assets.tree.Named
  clean : Char.ofNat 0 ∉ assets.base.text
  based : assets.tree.resolve assets.directory assets.base = .ok (home, .directory)
  stored : assets.tree.resolve assets.directory (home ++ names : Place).path =
    .ok (home ++ names, .file content)

variable {assets : Assets} {home names : Place} {content : ByteArray}

namespace Stores

theorem find? (held : assets.Stores home names content) :
    assets.tree.find? (home ++ names) = some (.file content) :=
  (FileTree.resolve_eq_ok_iff.mp held.stored).2.2.1

theorem named (held : assets.Stores home names content) : Place.Named (home ++ names) :=
  held.treeNamed _ (by rw [FileTree.has, held.find?, Option.isSome_some])

theorem names_named (held : assets.Stores home names content) : names.Named :=
  fun name among => held.named name (List.mem_append_right home among)

theorem names_ne_nil (held : assets.Stores home names content) : names ≠ [] := by
  rintro rfl
  have file := held.find?
  rw [List.append_nil, (FileTree.resolve_eq_ok_iff.mp held.based).2.2.1] at file
  simp at file

theorem walk (held : assets.Stores home names content) :
    assets.tree.walk home (names.map .name) = .ok (home ++ names) :=
  FileTree.walk_of_resolve_path held.named held.stored

theorem dropWhile_slash (held : assets.Stores home names content) :
    (joinWith '/' names).dropWhile (· = '/') = joinWith '/' names := by
  obtain ⟨first, rest, rfl⟩ := List.exists_cons_of_ne_nil held.names_ne_nil
  have valid := held.names_named first List.mem_cons_self
  obtain ⟨char, chars, rfl⟩ := List.exists_cons_of_ne_nil valid.1
  have other : char ≠ '/' := fun slash => valid.2.1 (slash ▸ List.mem_cons_self)
  cases rest <;> simp [joinWith, other]

theorem leads_of_verbatim (held : assets.Stores home names content)
    (verbatim : Verbatim ('/' :: joinWith '/' names)) :
    assets.leads ('/' :: joinWith '/' names) = .file (assets.base.joinAll names) content ∧
      assets.tree.resolve assets.directory (assets.base.joinAll names) =
        .ok (home ++ names, .file content) := by
  have resolved := (FileTree.resolve_joinAll_iff held.based held.names_named
    held.names_ne_nil).mpr ⟨held.walk, held.find?⟩
  have plain : ¬ Escaped (bytesOf (joinWith '/' names)) := by
    rw [← Http.Uri.escaped_rooted_iff, Text.Percent.escaped_bytesOf_iff]
    exact verbatim.unescaped
  have read : assets.filePath? ('/' :: joinWith '/' names) = some (assets.base.joinAll names) := by
    rw [filePath?_eq_some_iff]
    refine ⟨joinWith '/' names, names, ?_, names?_joinWith held.names_named held.names_ne_nil, rfl⟩
    rw [List.dropWhile_cons_of_pos (by decide), held.dropWhile_slash]
    exact Text.Percent.decodeText?_of_not_escaped plain
  have clean : Char.ofNat 0 ∉ (assets.base.joinAll names).text := by
    intro nul
    rcases Path.mem_text_joinAll nul with base | slash | ⟨name, among, inside⟩
    next => exact held.clean base
    next => contradiction
    next =>
      have foreign := verbatim.readable (Char.ofNat 0)
        (List.mem_cons_of_mem _ (Text.mem_joinWith_of_mem '/' among inside))
      contradiction
  refine ⟨?_, resolved⟩
  rw [leads_eq_file_iff]
  exact ⟨_, read, .inl (find_eq_file_iff.mpr ⟨clean, rfl, _, resolved⟩)⟩

theorem names_of_resolve (held : assets.Stores home names content) {behind : Place}
    {other : ByteArray} (named : behind.Named)
    (there : assets.tree.resolve assets.directory (assets.base.joinAll behind) =
      .ok (home ++ names, .file other)) : names = behind := by
  by_cases empty : behind = []
  · subst empty
    have based := held.based
    have base : assets.base.joinAll [] = assets.base := rfl
    rw [← base, there] at based
    simp at based
  · obtain ⟨led, _⟩ := (FileTree.resolve_joinAll_iff held.based named empty).mp there
    exact List.append_cancel_left (FileTree.place_of_walk_names led)

theorem names_of_leads (held : assets.Stores home names content) {text : List Char} {file : Path}
    {other : ByteArray} (led : assets.leads text = .file file other)
    (there : assets.tree.resolve assets.directory file = .ok (home ++ names, .file other)) :
    ∃ decoded behind, decodeText? (text.dropWhile (· = '/')) = some decoded ∧
      names? ⟨decoded⟩ = some behind ∧
      (names = behind ∨ names = behind ++ [indexPage] ∧ text.getLast? = some '/') := by
  obtain ⟨path, read, found⟩ := (leads_eq_file_iff text).mp led
  obtain ⟨decoded, behind, unescaped, piecewise, rfl⟩ := (filePath?_eq_some_iff _ _ _).mp read
  have named := named_of_names? piecewise
  refine ⟨decoded, behind, unescaped, piecewise, ?_⟩
  rcases found with whole | ⟨_, slash, index⟩
  next =>
    obtain ⟨_, rfl, _⟩ := find_eq_file_iff.mp whole
    exact .inl (held.names_of_resolve named there)
  next =>
    obtain ⟨_, rfl, _⟩ := find_eq_file_iff.mp index
    rw [← Path.joinAll_concat] at there
    have both : Place.Named (behind ++ [indexPage]) := by
      intro name among
      rcases List.mem_append.mp among with inside | last
      next => exact named name inside
      next => exact List.mem_singleton.mp last ▸ by decide
    exact .inr ⟨held.names_of_resolve both there, slash⟩

theorem exists_ending {behind : Place} {path : List Char}
    (which : names = behind ∨ names = behind ++ [indexPage] ∧ ('/' :: path).getLast? = some '/') :
    ∃ ending, joinWith '/' names = joinWith '/' behind ++ ending ∧
      (∀ char ∈ ending, isPathChar char = true) ∧
      (names = behind ∨ ending.getLast? = some 'l' ∧ ('/' :: path).getLast? = some '/') := by
  rcases which with rfl | ⟨rfl, slash⟩
  next => exact ⟨[], (List.append_nil _).symm, by simp, .inl rfl⟩
  next =>
    by_cases empty : behind = []
    next =>
      subst empty
      exact ⟨indexPage, rfl, List.all_eq_true.mp (by decide), .inr ⟨by decide, slash⟩⟩
    next =>
      exact ⟨'/' :: indexPage, Text.joinWith_concat '/' empty indexPage,
        List.all_eq_true.mp (by decide), .inr ⟨by decide, slash⟩⟩

theorem verbatim_of_leads (held : assets.Stores home names content) {uri : Http.Uri} {file : Path}
    {other : ByteArray} (read : Http.Uri.parse? ('/' :: joinWith '/' names) = some uri)
    (led : assets.leads uri.pathText = .file file other)
    (there : assets.tree.resolve assets.directory file = .ok (home ++ names, .file other)) :
    uri.pathText = '/' :: joinWith '/' names ∧ Verbatim ('/' :: joinWith '/' names) := by
  obtain ⟨path, rest, whole, shown, stops⟩ := Http.Uri.exists_rest_of_rooted read
  rw [shown] at led
  obtain ⟨decoded, behind, unescaped, piecewise, which⟩ := held.names_of_leads led there
  rw [List.dropWhile_cons_of_pos (by decide)] at unescaped
  have bound := byteLength_names_le unescaped piecewise
  have shorter := Text.Percent.length_decode_le (bytesOf (path.dropWhile (· = '/')))
  have dropped : byteLength (path.dropWhile (· = '/')) ≤ byteLength path :=
    Text.byteLength_le_of_sublist (List.dropWhile_sublist _)
  rw [← byteLength_eq] at shorter
  obtain ⟨ending, split, plain, which⟩ := exists_ending which
  have uncut : rest = [] :=
    Http.Uri.rest_eq_nil (split ▸ whole) plain stops (by omega)
  rw [uncut, List.append_nil] at whole
  subst whole
  refine ⟨shown, ?_, ?_, Http.Uri.short_of_parse? read⟩
  · exact shown ▸ (Http.Uri.holds_pathText read).path
  · rw [← Text.Percent.escaped_bytesOf_iff, Http.Uri.escaped_rooted_iff]
    intro escaped
    rcases which with rfl | ⟨letter, slash⟩
    next =>
      have fewer := Text.Percent.length_decode_lt escaped
      rw [held.dropWhile_slash, byteLength_eq] at bound
      omega
    next =>
      rw [split, ← List.cons_append, List.getLast?_append, letter] at slash
      cases slash

end Stores

end Assets

-- A request for the URL is for a file, and gets the one at the place.
def ServedAt (site : Site) (assets : Assets) (url : List Char) (place : Place) : Prop :=
  ∃ uri file content, Http.Uri.parse? url = some uri ∧
    (∀ request : Request, request.uri = uri → site.route request = .rules) ∧
    evaluate site.rules uri.target = .unchanged ∧
    assets.leads uri.pathText = .file file content ∧
    assets.tree.resolve assets.directory file = .ok (place, .file content)

namespace Site

-- The paths of the site itself, which are no files.
def Reserved (site : Site) (url : List Char) : Prop :=
  site.reload = true ∧
    (String.ofList url = Script.channelPath ∨ String.ofList url = Injection.scriptPath)

instance (site : Site) (url : List Char) : Decidable (site.Reserved url) :=
  inferInstanceAs (Decidable (_ ∧ _))

theorem route_eq_rules_iff (site : Site) (request : Request) :
    site.route request = .rules ↔ ¬ site.Reserved request.uri.pathText := by
  unfold route Reserved
  dsimp only
  split_ifs with channel script
  all_goals simp_all

end Site

variable {assets : Assets} {home names : Place} {content : ByteArray}

theorem servedAt_iff (site : Site) (held : assets.Stores home names content) :
    let url := '/' :: joinWith '/' names
    ServedAt site assets url (home ++ names) ↔
      Verbatim url ∧ ¬ site.Reserved url ∧ evaluate site.rules url = .unchanged := by
  intro url
  have target : Http.Uri.target { path := url } = url := List.append_nil url
  constructor
  · intro served
    obtain ⟨uri, file, other, read, routed, alone, led, there⟩ := served
    obtain ⟨_, verbatim⟩ := held.verbatim_of_leads read led there
    rw [Http.Uri.parse?_rooted verbatim.readable verbatim.short] at read
    obtain rfl := Option.some.inj read
    exact ⟨verbatim, (site.route_eq_rules_iff _).mp (routed ⟨"GET", _, [], .empty⟩ rfl),
      target ▸ alone⟩
  · intro conditions
    obtain ⟨verbatim, free, alone⟩ := conditions
    obtain ⟨led, there⟩ := held.leads_of_verbatim verbatim
    have read := Http.Uri.parse?_rooted verbatim.readable verbatim.short
    refine ⟨{ path := url }, _, content, read, ?_, target.symm ▸ alone, led, there⟩
    intro request same
    rw [site.route_eq_rules_iff, same]
    exact free

theorem Assets.serve_of_leads {request : Request} {file : Path} (asked : request.method = "GET")
    (plain : request.headers = [])
    (led : assets.leads request.uri.pathText = .file file content) :
    assets.serve request = Assets.wholeFile file content := by
  have served : assets.lookup request = assets.serveFound request (.file file content) := by
    rcases assets.lookup_cases request with found | ⟨directory, _⟩
    next => rw [found, led]
    next =>
      rw [led] at directory
      contradiction
  have unstated (name : String) : request.headers.first? name = none := by
    rw [plain]
    rfl
  rw [Assets.serve, if_pos (by simp [asked]), served]
  simp [Assets.serveFound, Assets.refusal?, Assets.time?, Assets.serveFile, unstated]

/-- Of a file under the directory that is both watched and served, a browser is told the path of
its names as they stand. With no rules, a request for this path gets that file exactly if all of
its characters may stand in the path of a request, none of its percent signs has two digits behind
it, it is short enough, and it is none of the site's own paths. -/
theorem told_path_serves_file_iff_verbatim (held : assets.Stores home names content)
    (patterns : Option (List String)) (reload : Bool) :
    let url := '/' :: joinWith '/' names
    let site : Site := ⟨[], reload⟩
    (∃ watch, Watch.start assets.tree assets.directory assets.base patterns = .ok watch ∧
      ∀ path : Path, path.sameAs (home ++ names : Place).path = true →
        urlPath? watch.directory path = some (String.ofList url)) ∧
    (ServedAt site assets url (home ++ names) ↔ Verbatim url ∧ ¬ site.Reserved url) ∧
    (ServedAt site assets url (home ++ names) → ∀ (request : Request) (transport : Transport),
      Http.Uri.parse? url = some request.uri → request.method = "GET" → request.headers = [] →
        site.answer assets transport request = site.serve assets request ∧
        assets.serve request = Assets.wholeFile (assets.base.joinAll names) content) := by
  intro url site
  have homeNamed : home.Named := fun name among =>
    held.named name (List.mem_append_left names among)
  have served := servedAt_iff site held
  refine ⟨⟨.ofPatterns home.path patterns, ?_, ?_⟩, ?_, ?_⟩
  · rw [Watch.start, held.based]
  · intro path same
    apply urlPath?_of_names
    rw [(Path.sameAs_iff _ _).mp same, Place.components_path held.named, List.map_append]
    exact congrArg (· ++ _) (Place.components_path homeNamed).symm
  · exact served.trans (and_congr_right fun _ => and_iff_left rfl)
  · intro found request transport read asked plain
    obtain ⟨verbatim, free, alone⟩ := served.mp found
    rw [Http.Uri.parse?_rooted verbatim.readable verbatim.short] at read
    have uri := (Option.some.inj read).symm
    have shown : request.uri.pathText = url := by
      rw [uri]
      rfl
    have led := (held.leads_of_verbatim verbatim).1
    refine ⟨?_, Assets.serve_of_leads asked plain (shown.symm ▸ led)⟩
    have routed : site.route request = .rules := by
      rw [site.route_eq_rules_iff, shown]
      exact free
    have unchanged : evaluate site.rules request.uri.target = .unchanged := rfl
    rw [Site.answer, routed]
    dsimp only
    rw [Site.dispatch, unchanged]

def drafts : Assets where
  tree := {
    nodes := [
      (["site".toList], .directory),
      (["site".toList, "a b.html".toList], .file "2".toUTF8),
      (["site".toList, "a%20b.html".toList], .file "1".toUTF8),
      (["site".toList, "c.html".toList], .file "3".toUTF8)] }
  directory := []
  base := .ofString "/site"
  modified := 0

theorem named_drafts : drafts.tree.Named := by
  intro place present
  obtain rfl | among := (drafts.tree.has_iff place).mp present
  · exact List.forall_mem_nil _
  · exact (by decide : ∀ place ∈ drafts.tree.places, place.Named) place among

theorem stores_drafts {name : List Char} {content : ByteArray}
    (listed : (name, content) ∈ [("a b.html".toList, "2".toUTF8),
      ("a%20b.html".toList, "1".toUTF8), ("c.html".toList, "3".toUTF8)]) :
    drafts.Stores ["site".toList] [name] content where
  treeNamed := named_drafts
  clean := by decide
  based := by rfl
  stored := by
    simp only [List.mem_cons, List.not_mem_nil, or_false, Prod.mk.injEq] at listed
    rcases listed with ⟨rfl, rfl⟩ | ⟨rfl, rfl⟩ | ⟨rfl, rfl⟩ <;> rfl

theorem plain_draft_is_served :
    drafts.Stores ["site".toList] ["c.html".toList] "3".toUTF8 ∧
      urlPath? (Place.path ["site".toList]) (.ofString "/site//c.html") = some "/c.html" ∧
      ServedAt ⟨[], true⟩ drafts "/c.html".toList ["site".toList, "c.html".toList] := by
  have held := stores_drafts (List.mem_of_getElem? (i := 2) rfl)
  obtain ⟨⟨watch, started, told⟩, served, _⟩ :=
    told_path_serves_file_iff_verbatim held none true
  have verbatim : Verbatim "/c.html".toList := by
    refine ⟨List.all_eq_true.mp (by decide), ?_, by decide⟩
    rintro ⟨before, high, low, after, split, _⟩
    have sign : '%' ∈ "/c.html".toList := by
      rw [split]
      simp
    contradiction
  have there := told (.ofString "/site//c.html") (by decide +kernel)
  rw [Watch.start, held.based] at started
  obtain rfl := Except.ok.inj started
  exact ⟨held, there, served.mpr ⟨verbatim, by decide⟩⟩

theorem encoded_draft_gets_other_file :
    drafts.Stores ["site".toList] ["a%20b.html".toList] "1".toUTF8 ∧
    urlPath? (Place.path ["site".toList]) (Place.path ["site".toList, "a%20b.html".toList]) =
      some "/a%20b.html" ∧
    drafts.leads "/a%20b.html".toList = .file (.ofString "/site/a b.html") "2".toUTF8 ∧
    drafts.Stores ["site".toList] ["a b.html".toList] "2".toUTF8 ∧
    urlPath? (Place.path ["site".toList]) (Place.path ["site".toList, "a b.html".toList]) =
      some "/a b.html" ∧
    Http.Uri.parse? "/a b.html".toList = none := by
  refine ⟨stores_drafts (List.mem_of_getElem? (i := 1) rfl), by decide +kernel, ?_,
    stores_drafts (List.mem_of_getElem? (i := 0) rfl), by decide +kernel, by decide +kernel⟩
  have decoded : drafts.filePath? "/a%20b.html".toList = some (.ofString "/site/a b.html") := by
    decide +kernel
  have found : drafts.find (.ofString "/site/a b.html") =
      .file (.ofString "/site/a b.html") "2".toUTF8 :=
    Assets.find_eq_file_iff.mpr ⟨by decide +kernel, rfl, ["site".toList, "a b.html".toList], by rfl⟩
  exact (Assets.leads_eq_file_iff _).mpr ⟨_, decoded, .inl found⟩

end Workbench
