import Workbench.Proofs.Dev.Asked
import Workbench.Proofs.Http.Target
import Workbench.Proofs.Rule.Backend
import Workbench.Proofs.Url.Kept
import Workbench.Proofs.Url.Reading

set_option autoImplicit false

namespace Workbench.Backend

open Http (Request Response)
open Http.Uri (Holds isPathChar isQueryChar)
open Text (markedBy)
open Text.Percent (encode)
open Url (StaysInPath changedInPath dotNames doubleDots isDots keptInPath keptInQuery readPath)

def address (path : List Char) (query : Option (List Char)) : Url where
  scheme := "http".toList
  host := .domain "localhost".toList
  port := some 8080
  path := readPath ('/' :: path)
  query := query.map (encode keptInQuery)

theorem authority_read : Url.readAuthority (.hosted 80) true "localhost:8080".toList =
    .ok ⟨[], [], .domain "localhost".toList, some 8080⟩ := by
  decide +kernel

theorem authority_alone : Http.Uri.authority? "localhost:8080".toList =
    some ("localhost:8080".toList, []) := by
  decide +kernel

section
variable {path : List Char} {query : Option (List Char)}

theorem parse_origin (holds : Holds ('/' :: path) query) :
    Url.parse (origin ++ ('/' :: path ++ markedBy '?' query)) = .ok (address path query) := by
  have visible : ∀ char ∈ "//".toList ++ "localhost:8080".toList ++ '/' :: path ++
      markedBy '?' query, 0x20 < char.toNat := by
    have fixed : ("//".toList ++ "localhost:8080".toList).all (fun char => 0x20 < char.toNat) =
        true := by
      decide
    intro char mem
    rw [List.append_assoc, List.mem_append] at mem
    obtain mem | mem := mem
    next => exact of_decide_eq_true (List.all_eq_true.mp fixed char mem)
    next => exact Url.visible_of_holds holds char mem
  have noEnd : ∀ char ∈ path, Url.endsPath char = false := by
    intro char mem
    have inPath := holds.path char (List.mem_cons_of_mem _ mem)
    rw [← Bool.not_eq_true, Url.endsPath, Bool.or_eq_true, decide_eq_true_eq, decide_eq_true_eq]
    rintro (rfl | rfl) <;> exact absurd inPath (by decide)
  have noFragment : ∀ text, query = some text → '#' ∉ text := by
    intro text same mem
    exact absurd (holds.query text same '#' mem) (by decide)
  have shape : origin ++ ('/' :: path ++ markedBy '?' query) = "http:".toList ++
      ("//".toList ++ "localhost:8080".toList ++ '/' :: path ++ markedBy '?' query) := by
    rfl
  have named : "localhost:8080".toList ≠ [] := by decide
  have bare : "localhost:8080".toList.any (Url.SchemeKind.hosted 80).endsHost = false := by decide
  have read := Url.readHosted_parts "http".toList named bare noEnd noFragment
  rw [shape, Url.parse_http visible, read, authority_read]
  rfl

theorem address_withoutCredentials : (address path query).withoutCredentials =
    address path query := by
  have nameless : Text.Percent.decodeText? [] = some [] := by decide +kernel
  rw [Url.withoutCredentials, show (address path query).username = [] from rfl, nameless]
  rfl

theorem address_target : (address path query).target =
    '/' :: Text.joinWith '/' (readPath ('/' :: path)) ++
      markedBy '?' (query.map (encode keptInQuery)) :=
  rfl

theorem address_text : (address path query).text = origin ++ (address path query).target := by
  have digits : Nat.toDigits 10 8080 = "8080".toList := by decide
  have port : (address path query).portText = ':' :: "8080".toList := by
    rw [Url.portText, show (address path query).port = some 8080 from rfl]
    exact congrArg (List.cons ':') digits
  have front : (address path query).scheme ++ "://".toList ++ (address path query).credentials ++
      (address path query).host.text ++ (address path query).portText = origin := by
    rw [port]
    rfl
  have noFragment : (address path query).fragmentText = [] := rfl
  rw [Url.text, front, noFragment, Url.target, List.append_nil, List.append_assoc]

theorem parse?_address_text : Http.Uri.parse? (address path query).text =
    if Http.Uri.maxLength < Text.byteLength (address path query).text then none
    else some {
      scheme := some "http".toList
      authority := "localhost:8080".toList
      path := '/' :: Text.joinWith '/' (readPath ('/' :: path))
      query := query.map (encode keptInQuery) } := by
  have shape : (address path query).text = "http://".toList ++ ("localhost:8080".toList ++
      (('/' :: Text.joinWith '/' (readPath ('/' :: path))) ++
        markedBy '?' (query.map (encode keptInQuery)))) := by
    rw [address_text, address_target]
    rfl
  rw [shape]
  exact Http.Uri.parse?_http (by decide) authority_alone rfl (Url.holds_of_read path query)

theorem outbound_origin (holds : Holds ('/' :: path) query) (request : Request) :
    (outbound (origin ++ ('/' :: path ++ markedBy '?' query)) request).toOption =
      if Http.Uri.maxLength < Text.byteLength (address path query).text then none
      else some ⟨request.method, address path query, outboundHeaders request.headers,
        request.body⟩ := by
  rw [outbound, parse_origin holds]
  simp only [address_withoutCredentials, parse?_address_text]
  split <;> rfl

end

def pathOf (suffix : List Char) : List Char :=
  suffix.takeWhile (· ≠ '?')

def queryOf (suffix : List Char) : List Char :=
  suffix.dropWhile (· ≠ '?')

/-- A suffix that an address keeps as it is: no name in its path is dots, nothing in it is written
in another way there, and the address is not too long for a request. -/
structure Verbatim (suffix : List Char) : Prop where
  names : ∀ name ∈ (pathOf suffix).splitOn '/', name.map Char.toLower ∉ dotNames
  path : ∀ char ∈ pathOf suffix, char ∉ changedInPath ∧ char.toNat < 0x7F
  query : ∀ char ∈ queryOf suffix, char ≠ '\'' ∧ char.toNat < 0x7F
  short : Text.byteLength (origin ++ mark ++ suffix) ≤ Http.Uri.maxLength

theorem names_iff (suffix : List Char) :
    (∀ name ∈ Text.splitOn '/' ("REST/".toList ++ pathOf suffix), isDots name = false) ↔
      ∀ name ∈ (pathOf suffix).splitOn '/', name.map Char.toLower ∉ dotNames := by
  have split : Text.splitOn '/' ("REST/".toList ++ pathOf suffix) =
      "REST".toList :: (pathOf suffix).splitOn '/' := by
    have noSlash : '/' ∉ "REST".toList := by decide
    rw [Text.splitOn_eq]
    exact List.splitOn_append_cons_self_of_not_mem noSlash (pathOf suffix)
  have front : isDots "REST".toList = false := by decide
  rw [split, List.forall_mem_cons]
  simp only [front, true_and]
  simp only [← Bool.not_eq_true, Url.isDots_iff]

section
variable {uri : Http.Uri} (holds : Holds uri.pathText uri.query) {suffix : List Char}
  (asked : uri.target = mark ++ suffix)
include holds asked

theorem parts_asked :
    uri.pathText = mark ++ pathOf suffix ∧ markedBy '?' uri.query = queryOf suffix := by
  have whole : uri.pathText ++ markedBy '?' uri.query = mark ++ suffix := asked
  have cut := holds.cut
  have plain : ∀ char ∈ mark, decide (char ≠ '?') = true :=
    List.all_eq_true.mp (by decide)
  rw [whole, List.takeWhile_append_of_pos plain, List.dropWhile_append_of_pos plain] at cut
  exact ⟨cut.1.symm, cut.2.symm⟩

theorem path_asked : uri.pathText = '/' :: ("REST/".toList ++ pathOf suffix) :=
  (parts_asked holds asked).1

theorem path_ne_of_head (text : List Char) (other : text.take 2 ≠ ['/', 'R']) :
    uri.pathText ≠ text := by
  intro same
  have front : uri.pathText.take 2 = ['/', 'R'] := by
    rw [(parts_asked holds asked).1]
    rfl
  rw [same] at front
  exact other front

theorem route_asked (rules : List (Rule Pattern)) (reload : Bool) {request : Request}
    (same : request.uri = uri) : Site.route ⟨rules, reload⟩ request = .rules := by
  have channel : String.ofList uri.pathText ≠ Script.channelPath := by
    intro equal
    exact path_ne_of_head holds asked Script.channelPath.toList (by decide)
      (by rw [← equal, String.toList_ofList])
  have script : String.ofList uri.pathText ≠ Injection.scriptPath := by
    intro equal
    exact path_ne_of_head holds asked Injection.scriptPath.toList (by decide)
      (by rw [← equal, String.toList_ofList])
  rw [Site.route, same]
  simp [channel, script]

theorem evaluate_asked : evaluate [rule] uri.target = .proxy (origin ++ uri.target) := by
  have oneLine : '\n' ∉ uri.target.drop mark.length := by
    intro mem
    have visible := Url.visible_of_holds holds '\n' (List.mem_of_mem_drop mem)
    exact absurd visible (by decide)
  rw [evaluate_rule, if_pos ⟨⟨suffix, asked.symm⟩, oneLine⟩]

theorem outbound?_asked (reload : Bool) {request : Request} (same : request.uri = uri) :
    Site.outbound? ⟨[rule], reload⟩ request =
      if Http.Uri.maxLength <
          Text.byteLength (address ("REST/".toList ++ pathOf suffix) uri.query).text then none
      else some ⟨request.method, address ("REST/".toList ++ pathOf suffix) uri.query,
        outboundHeaders request.headers, request.body⟩ := by
  have rooted := path_asked holds asked
  have whole : uri.target = '/' :: ("REST/".toList ++ pathOf suffix) ++ markedBy '?' uri.query := by
    rw [← rooted]
    rfl
  have parts : Holds ('/' :: ("REST/".toList ++ pathOf suffix)) uri.query := rooted ▸ holds
  rw [Site.outbound?, route_asked holds asked _ reload same, same, evaluate_asked holds asked]
  dsimp only
  rw [whole, outbound_origin parts]

omit asked in
theorem target_eq_iff (path : List Char) (rooted : uri.pathText = '/' :: path) :
    (address path uri.query).target = uri.target ↔
      Text.joinWith '/' (readPath ('/' :: path)) = path ∧
        uri.query.map (encode keptInQuery) = uri.query := by
  have read := Url.holds_of_read path uri.query
  have whole : uri.target = '/' :: path ++ markedBy '?' uri.query := by
    rw [← rooted]
    rfl
  rw [address_target, whole]
  constructor
  · intro same
    obtain ⟨samePath, sameQuery⟩ := read.unique (rooted ▸ holds) same
    exact ⟨(List.cons.inj samePath).2, sameQuery⟩
  · rintro ⟨samePath, sameQuery⟩
    rw [samePath, sameQuery]

theorem path_iff :
    (∀ char ∈ "REST/".toList ++ pathOf suffix, StaysInPath char) ↔
      ∀ char ∈ pathOf suffix, char ∉ changedInPath ∧ char.toNat < 0x7F := by
  have front : ∀ char ∈ "REST/".toList, StaysInPath char := by
    have each : "REST/".toList.all (fun char => keptInPath char && char ≠ '\\') = true := by
      decide
    simpa [StaysInPath] using each
  have inPath : ∀ char ∈ pathOf suffix, isPathChar char = true := by
    intro char mem
    apply holds.path
    rw [(parts_asked holds asked).1]
    exact List.mem_append_right mark mem
  rw [List.forall_mem_append]
  constructor
  · rintro ⟨_, stays⟩ char mem
    exact (Url.staysInPath_iff (inPath char mem)).mp (stays char mem)
  · intro unchanged
    exact ⟨front, fun char mem => (Url.staysInPath_iff (inPath char mem)).mpr (unchanged char mem)⟩

theorem query_iff :
    uri.query.map (encode keptInQuery) = uri.query ↔
      ∀ char ∈ queryOf suffix, char ≠ '\'' ∧ char.toNat < 0x7F := by
  rw [← (parts_asked holds asked).2]
  cases query : uri.query with
  | none => simp [markedBy]
  | some text =>
      have inQuery := holds.query text query
      rw [Option.map_some, Option.some.injEq,
        Text.Percent.encode_eq_self_iff Url.query_keeps_marks, markedBy, List.forall_mem_cons]
      constructor
      · intro kept
        refine ⟨by decide, ?_⟩
        intro char mem
        exact (Url.keptInQuery_iff_of_isQueryChar (inQuery char mem)).mp (kept char mem)
      · rintro ⟨_, unchanged⟩ char mem
        exact (Url.keptInQuery_iff_of_isQueryChar (inQuery char mem)).mpr (unchanged char mem)

theorem verbatim_iff :
    (address ("REST/".toList ++ pathOf suffix) uri.query).target = uri.target ∧
      Text.byteLength (address ("REST/".toList ++ pathOf suffix) uri.query).text ≤
        Http.Uri.maxLength ↔ Verbatim suffix := by
  have text (same : (address ("REST/".toList ++ pathOf suffix) uri.query).target = uri.target) :
      (address ("REST/".toList ++ pathOf suffix) uri.query).text = origin ++ mark ++ suffix := by
    rw [address_text, same, asked, List.append_assoc]
  have parts := target_eq_iff holds _ (path_asked holds asked)
  have read := Url.joinWith_readPath_eq_iff ("REST/".toList ++ pathOf suffix)
  -- The length is that of the address as it is written, which is the suffix only once it is kept.
  constructor
  · rintro ⟨same, short⟩
    obtain ⟨samePath, sameQuery⟩ := parts.mp same
    obtain ⟨stays, names⟩ := read.mp samePath
    rw [text same] at short
    exact ⟨(names_iff suffix).mp names, (path_iff holds asked).mp stays,
      (query_iff holds asked).mp sameQuery, short⟩
  · intro verbatim
    have samePath := read.mpr ⟨(path_iff holds asked).mpr verbatim.path,
      (names_iff suffix).mpr verbatim.names⟩
    have same := parts.mpr ⟨samePath, (query_iff holds asked).mpr verbatim.query⟩
    rw [text same]
    exact ⟨same, verbatim.short⟩

end

-- A suffix without a name that leads up, where backslashes separate names as well.
def NeverUp (suffix : List Char) : Prop :=
  ∀ name ∈ ((pathOf suffix).map Url.asSlash).splitOn '/', name.map Char.toLower ∉ doubleDots

theorem mark_prefix_of_neverUp {suffix : List Char} (neverUp : NeverUp suffix)
    (query : Option (List Char)) :
    mark <+: (address ("REST/".toList ++ pathOf suffix) query).target := by
  have names : Url.namesOf ("REST/".toList ++ pathOf suffix) =
      "REST".toList :: Url.namesOf (pathOf suffix) := by
    have noSlash : '/' ∉ "REST".toList := by decide
    rw [Url.namesOf, Url.namesOf, Text.splitOn_eq, Text.splitOn_eq, List.map_append]
    change List.map _ (List.splitOn '/' ("REST".toList ++ '/' :: _)) = _
    rw [List.splitOn_append_cons_self_of_not_mem noSlash]
    rfl
  have stays : ∀ name ∈ Url.namesOf (pathOf suffix), Url.isDoubleDot name = false := by
    intro name among
    obtain ⟨raw, split, rfl⟩ := List.mem_map.mp among
    rw [Text.splitOn_eq] at split
    rw [← Bool.not_eq_true]
    intro double
    exact neverUp raw split ((Url.isDoubleDot_iff raw).mp (Url.isDoubleDot_of_encode double))
  have plain : isDots "REST".toList = false := by decide
  obtain ⟨behind, found, more⟩ := Url.resolveDots_of_no_doubleDot ["REST".toList] stays
  obtain ⟨next, others, rfl⟩ :=
    List.exists_cons_of_ne_nil (more (Url.namesOf_ne_nil (pathOf suffix)))
  have resolved : readPath ('/' :: ("REST/".toList ++ pathOf suffix)) =
      "REST".toList :: next :: others := by
    rw [Url.readPath_slash, names, Url.resolveDots_cons,
      if_neg (fun last => Url.namesOf_ne_nil _ last.1), Url.passName_of_plain plain, found]
    rfl
  rw [address_target, resolved, Text.joinWith_cons_cons]
  exact ⟨Text.joinWith '/' (next :: others) ++ markedBy '?' (query.map (encode keptInQuery)),
    by simp [mark]⟩

section
variable {request : Request} (holds : Holds request.uri.pathText request.uri.query)
  {suffix : List Char} (asked : request.uri.target = mark ++ suffix) (reload : Bool)
include holds asked

theorem targetAsked?_eq :
    Site.targetAsked? ⟨[rule], reload⟩ request =
      if Http.Uri.maxLength <
          Text.byteLength (address ("REST/".toList ++ pathOf suffix) request.uri.query).text
      then none
      else some (address ("REST/".toList ++ pathOf suffix) request.uri.query).target := by
  rw [Site.targetAsked?, outbound?_asked holds asked reload rfl]
  split <;> rfl

theorem targetAsked?_verbatim_iff :
    Site.targetAsked? ⟨[rule], reload⟩ request = some (mark ++ suffix) ↔ Verbatim suffix := by
  rw [← verbatim_iff holds asked, targetAsked?_eq holds asked, ← asked]
  split
  next long =>
    constructor
    · intro impossible
      cases impossible
    · rintro ⟨_, short⟩
      exact absurd short (Nat.not_le.mpr long)
  next short =>
    constructor
    · intro same
      exact ⟨Option.some.inj same, Nat.le_of_not_lt short⟩
    · rintro ⟨same, _⟩
      exact congrArg some same

theorem mark_prefix_of_targetAsked? (neverUp : NeverUp suffix) {target : List Char}
    (asks : Site.targetAsked? ⟨[rule], reload⟩ request = some target) : mark <+: target := by
  rw [targetAsked?_eq holds asked] at asks
  split at asks
  next => cases asks
  next =>
    rw [← Option.some.inj asks]
    exact mark_prefix_of_neverUp neverUp request.uri.query

end

/-- With the rule that a server has by default, the backend is asked for what the client has asked
for exactly if the suffix is one that an address keeps. It is asked for nothing outside its part of
the site as long as no name of the path leads up. What it is asked for is all that it hears of a
request, and what it answers is what the client gets. -/
theorem asks_backend_verbatim_iff {rules : List (Rule Pattern)}
    (parsed : Rule.parseAll [defaultRewrite.toList] = .ok rules) {text : List Char}
    {request : Request} (accepted : Http.Uri.parse? text = some request.uri)
    {suffix : List Char} (asked : request.uri.target = "/REST/".toList ++ suffix) (reload : Bool) :
    (Site.targetAsked? ⟨rules, reload⟩ request = some ("/REST/".toList ++ suffix) ↔
      Verbatim suffix) ∧
    (NeverUp suffix → ∀ target, Site.targetAsked? ⟨rules, reload⟩ request = some target →
      "/REST/".toList <+: target) ∧
    ∀ (assets : Assets) (transport : Transport),
      (∀ sent response, Site.outbound? ⟨rules, reload⟩ request = some sent →
        transport sent = some response →
          Site.answer ⟨rules, reload⟩ assets transport request = relayed response) ∧
      (Site.outbound? ⟨rules, reload⟩ request = none → ∀ other,
        Site.answer ⟨rules, reload⟩ assets transport request =
          Site.answer ⟨rules, reload⟩ assets other request) := by
  have only : rules = [rule] := Except.ok.inj (parsed.symm.trans rules_default)
  subst only
  have holds := Http.Uri.holds_pathText accepted
  have front : "/REST/".toList = mark := rfl
  rw [front] at asked ⊢
  refine ⟨targetAsked?_verbatim_iff holds asked reload, ?_, ?_⟩
  · intro neverUp target asks
    exact mark_prefix_of_targetAsked? holds asked reload neverUp asks
  · intro assets transport
    constructor
    · intro sent response asks answered
      exact Site.answer_of_outbound asks assets transport answered
    · intro asks other
      exact Site.answer_of_no_outbound asks assets transport other

theorem asks_backend_for_other_than_asked :
    Site.targetAsked? ⟨[rule], true⟩ { uri := { path := "/REST/a".toList } } =
        some "/REST/a".toList ∧
      Site.targetAsked? ⟨[rule], true⟩ { uri := { path := "/REST/../admin".toList } } =
        some "/admin".toList := by
  have kept : Verbatim "a".toList := ⟨by decide, by simp [pathOf, changedInPath],
    by simp [queryOf], by decide⟩
  constructor
  · have accepted : Http.Uri.parse? "/REST/a".toList = some { path := "/REST/a".toList } := by
      decide +kernel
    exact (@asks_backend_verbatim_iff [rule] rules_default "/REST/a".toList
      { uri := { path := "/REST/a".toList } } accepted "a".toList (by decide) true).1.mpr kept
  · have accepted : Http.Uri.parse? "/REST/../admin".toList =
        some { path := "/REST/../admin".toList } := by decide +kernel
    have holds := Http.Uri.holds_pathText accepted
    have asked : Http.Uri.target { path := "/REST/../admin".toList } =
        mark ++ "../admin".toList := by
      decide
    rw [targetAsked?_eq holds asked true]
    decide +kernel

end Workbench.Backend
