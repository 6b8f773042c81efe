import Workbench.Proofs.Files.Reached
import Workbench.Reload.Event

set_option autoImplicit false

namespace Workbench

namespace Path

theorem fileName?_congr {left right : Path} (same : left.components = right.components) :
    left.fileName? = right.fileName? := by
  rw [fileName?, fileName?, same]

theorem fileName?_eq_some_iff (path : Path) (name : List Char) :
    path.fileName? = some name ↔ path.components.getLast? = some (.name name) := by
  unfold fileName?
  split
  next text last => simp [last]
  next other =>
    constructor
    · intro impossible
      contradiction
    · intro last
      exact absurd last (other name)

theorem extension?_congr {left right : Path} (same : left.components = right.components) :
    left.extension? = right.extension? := by
  rw [extension?, extension?, fileName?_congr same]

theorem extension?_eq_some_iff (path : Path) (extension : List Char) :
    path.extension? = some extension ↔
      '.' ∉ extension ∧ ∃ stem, stem ≠ [] ∧
        path.components.getLast? = some (.name (stem ++ '.' :: extension)) := by
  simp only [← fileName?_eq_some_iff]
  cases named : path.fileName? with
  | none => simp [extension?, named]
  | some name =>
      have cut (before after : List Char) := Text.cutAt?_eq_some_iff '.' name.reverse before after
      simp only [extension?, named, Option.bind_eq_bind, Option.bind_some, Option.some.injEq,
        Option.bind_eq_some_iff, Prod.exists, cut]
      constructor
      · rintro ⟨before, after, ⟨reversed, free⟩, chosen⟩
        split at chosen
        next => contradiction
        next nonempty =>
          obtain rfl := Option.some.inj chosen
          refine ⟨by simpa using free, after.reverse, by simpa using nonempty, ?_⟩
          have turned := congrArg List.reverse reversed
          simpa using turned
      · rintro ⟨free, stem, nonempty, rfl⟩
        exact ⟨extension.reverse, stem.reverse, ⟨by simp, by simpa using free⟩, by simp [nonempty]⟩

end Path

theorem urlPath?_eq_none_iff (directory path : Path) :
    urlPath? directory path = none ↔ ¬ directory.components <+: path.components := by
  simp [urlPath?, Path.relativeTo?_eq_none_iff]

theorem urlPath?_of_under {directory path : Path} {behind : List Path.Component}
    (under : path.components = directory.components ++ behind) :
    urlPath? directory path =
      some (String.ofList ('/' :: Text.joinWith '/' (behind.filterMap Path.Component.name?))) := by
  cases found : path.relativeTo? directory with
  | none =>
      rw [Path.relativeTo?_eq_none_iff, under] at found
      exact absurd (List.prefix_append _ _) found
  | some relative =>
      have same := Path.components_of_relativeTo? found
      rw [under, List.append_cancel_left_eq] at same
      rw [urlPath?, found, Option.map_some, Path.names_eq, same]

namespace Change

theorem reloadKind_congr {kind : ChangeKind} {left right : Path}
    (same : left.components = right.components) :
    reloadKind ⟨left, kind⟩ = reloadKind ⟨right, kind⟩ := by
  simp only [reloadKind, Path.extension?_congr same]

theorem reloadKind_eq_styles_iff (change : Change) :
    change.reloadKind = .styles ↔
      change.kind ≠ .removed ∧ ∃ stem, stem ≠ [] ∧
        change.path.components.getLast? = some (.name (stem ++ ".css".toList)) := by
  have dotted (stem : List Char) : stem ++ ".css".toList = stem ++ '.' :: "css".toList := rfl
  have plain : '.' ∉ "css".toList := by decide
  have extension := change.path.extension?_eq_some_iff "css".toList
  simp only [plain, not_false_eq_true, true_and, ← dotted] at extension
  rw [← extension, reloadKind]
  split
  next styles => simpa using styles
  next page => simpa using page

theorem event?_of_under (change : Change) {directory : Path} {behind : List Path.Component}
    (under : change.path.components = directory.components ++ behind) :
    change.event? directory = some ⟨change.reloadKind,
      String.ofList ('/' :: Text.joinWith '/' (behind.filterMap Path.Component.name?))⟩ := by
  rw [event?, urlPath?_of_under under, Option.map_some]

theorem event?_eq_none_iff (change : Change) (directory : Path) :
    change.event? directory = none ↔ ¬ directory.components <+: change.path.components := by
  rw [event?, Option.map_eq_none_iff, urlPath?_eq_none_iff]

theorem event?_congr {kind : ChangeKind} {left right directory : Path}
    (same : left.components = right.components) :
    event? ⟨left, kind⟩ directory = event? ⟨right, kind⟩ directory := by
  by_cases under : directory.components <+: left.components
  · obtain ⟨behind, whole⟩ := under
    rw [event?_of_under ⟨left, kind⟩ whole.symm,
      event?_of_under ⟨right, kind⟩ (same ▸ whole.symm), reloadKind_congr same]
  · rw [(event?_eq_none_iff ⟨left, kind⟩ directory).mpr under,
      (event?_eq_none_iff ⟨right, kind⟩ directory).mpr (same ▸ under)]

end Change

theorem Text.joinWith_inj {mark : Char} {left right : List (List Char)}
    (leftNames : ∀ name ∈ left, name ≠ [] ∧ mark ∉ name)
    (rightNames : ∀ name ∈ right, name ≠ [] ∧ mark ∉ name)
    (same : joinWith mark left = joinWith mark right) : left = right := by
  have read {names : List (List Char)} (plain : ∀ name ∈ names, name ≠ [] ∧ mark ∉ name) :
      names = (splitOn mark (joinWith mark names)).filter (!·.isEmpty) := by
    cases names with
    | nil => rfl
    | cons name rest =>
        rw [splitOn_joinWith (fun other among => (plain other among).2) (List.cons_ne_nil _ _)]
        symm
        rw [List.filter_eq_self]
        intro other among
        simpa using (plain other among).1
  rw [read leftNames, read rightNames, same]

theorem urlPath?_of_names {directory path : Path} {names : List (List Char)}
    (under : path.components = directory.components ++ names.map .name) :
    urlPath? directory path = some (String.ofList ('/' :: Text.joinWith '/' names)) := by
  rw [urlPath?_of_under under, Path.filterMap_name?]

theorem urlPath?_inj {directory left right : Path} {leftNames rightNames : List (List Char)}
    (leftUnder : left.components = directory.components ++ leftNames.map .name)
    (rightUnder : right.components = directory.components ++ rightNames.map .name)
    (same : urlPath? directory left = urlPath? directory right) : left.sameAs right = true := by
  have plain {path : Path} {names : List (List Char)}
      (under : path.components = directory.components ++ names.map .name) :
      ∀ name ∈ names, name ≠ [] ∧ '/' ∉ name := by
    intro name among
    have behind : .name name ∈ path.components := by
      rw [under, List.mem_append]
      exact .inr (List.mem_map_of_mem among)
    have valid := Path.isName_of_mem_components behind
    exact ⟨valid.1, valid.2.1⟩
  rw [urlPath?_of_names leftUnder, urlPath?_of_names rightUnder, Option.some.injEq,
    String.ofList_inj, List.cons.injEq] at same
  have names := Text.joinWith_inj (plain leftUnder) (plain rightUnder) same.2
  simp [Path.sameAs, leftUnder, rightUnder, names]

end Workbench
