import Mathlib.Data.List.Nodup
import Workbench.Reload.Debounce

set_option autoImplicit false

namespace Workbench

theorem Path.sameAs_iff (left right : Path) :
    left.sameAs right = true ↔ left.components = right.components := by
  simp [Path.sameAs]

@[simp] theorem Path.sameAs_refl (path : Path) : path.sameAs path = true := by
  simp [Path.sameAs_iff]

def Debouncer.find? (debouncer : Debouncer) (path : Path) : Option Pending :=
  debouncer.pending.find? (·.path.sameAs path)

namespace Pending

def Distinct (pendings : List Pending) : Prop :=
  (pendings.map (·.path.components)).Nodup

def after? (change : Change) (deadline : Nat) : Option Pending -> Option Pending
  | none => some ⟨change, deadline⟩
  | some pending =>
      (pending.kind.merge change.kind).map fun kind => ⟨⟨pending.path, kind⟩, deadline⟩

theorem distinct_cons (pending : Pending) (rest : List Pending) :
    Distinct (pending :: rest) ↔
      (∀ other ∈ rest, other.path.components ≠ pending.path.components) ∧ Distinct rest := by
  simp [Distinct, List.nodup_cons]

theorem Distinct.filter {pendings : List Pending} (distinct : Distinct pendings)
    (keep : Pending -> Bool) : Distinct (pendings.filter keep) := by
  have sublist : (pendings.filter keep).Sublist pendings := List.filter_sublist
  exact List.Nodup.sublist (sublist.map _) distinct

theorem find?_eq_none_of_apart {pendings : List Pending} {path : Path}
    (apart : ∀ other ∈ pendings, other.path.components ≠ path.components) :
    pendings.find? (·.path.sameAs path) = none := by
  rw [List.find?_eq_none]
  intro other member
  simpa [Path.sameAs_iff] using apart other member

theorem Distinct.find?_eq_some_iff {pendings : List Pending} (distinct : Distinct pendings)
    (path : Path) (pending : Pending) :
    pendings.find? (·.path.sameAs path) = some pending ↔
      pending ∈ pendings ∧ pending.path.sameAs path = true := by
  induction pendings with
  | nil => simp
  | cons head rest ih =>
      obtain ⟨apart, others⟩ := (distinct_cons head rest).mp distinct
      by_cases same : head.path.sameAs path = true
      · have first : (head :: rest).find? (·.path.sameAs path) = some head := by simp [same]
        rw [first]
        constructor
        · intro found
          obtain rfl := Option.some.inj found
          exact ⟨by simp, same⟩
        · rintro ⟨member, samePath⟩
          rcases List.mem_cons.mp member with rfl | inRest
          · rfl
          · rw [Path.sameAs_iff] at same samePath
            exact absurd (samePath.trans same.symm) (apart pending inRest)
      · have behind : (head :: rest).find? (·.path.sameAs path) =
            rest.find? (·.path.sameAs path) := by simp [same]
        rw [behind, ih others]
        constructor
        · rintro ⟨member, samePath⟩
          exact ⟨by simp [member], samePath⟩
        · rintro ⟨member, samePath⟩
          rcases List.mem_cons.mp member with rfl | inRest
          · exact absurd samePath same
          · exact ⟨inRest, samePath⟩

theorem Distinct.find?_filter {pendings : List Pending} (distinct : Distinct pendings)
    (keep : Pending -> Bool) (path : Path) :
    (pendings.filter keep).find? (·.path.sameAs path) =
      (pendings.find? (·.path.sameAs path)).filter keep := by
  ext pending
  rw [(distinct.filter keep).find?_eq_some_iff, Option.filter_eq_some_iff,
    distinct.find?_eq_some_iff, List.mem_filter]
  tauto

theorem Distinct.find?_record {pendings : List Pending} (distinct : Distinct pendings)
    (change : Change) (deadline : Nat) (path : Path) :
    (record change deadline pendings).find? (·.path.sameAs path) =
      if change.path.sameAs path then
        after? change deadline (pendings.find? (·.path.sameAs path))
      else pendings.find? (·.path.sameAs path) := by
  induction pendings with
  | nil =>
      by_cases same : change.path.sameAs path = true <;> simp [record, same, after?]
  | cons head rest ih =>
      obtain ⟨apart, others⟩ := (distinct_cons head rest).mp distinct
      -- A record that cancels the head leaves nothing of its path, since none stands behind it.
      by_cases touched : head.path.sameAs change.path = true
      · have asChange : head.path.sameAs path = change.path.sameAs path := by
          rw [Path.sameAs_iff] at touched
          simp [Path.sameAs, touched]
        have absent (same : change.path.sameAs path = true) :
            rest.find? (·.path.sameAs path) = none := by
          apply find?_eq_none_of_apart
          intro other member
          rw [Path.sameAs_iff] at touched same
          rw [← same, ← touched]
          exact apart other member
        cases merged : head.kind.merge change.kind <;>
          by_cases same : change.path.sameAs path = true <;>
          simp_all [record, after?]
      · by_cases same : change.path.sameAs path = true
        · have other : ¬ head.path.sameAs path = true := by
            rw [Path.sameAs_iff] at same touched ⊢
            rwa [← same]
          simpa [record, touched, other, same] using ih others
        · by_cases found : head.path.sameAs path = true
          · simp [record, touched, found, same]
          · simpa [record, touched, found, same] using ih others

theorem Distinct.record {pendings : List Pending} (distinct : Distinct pendings)
    (change : Change) (deadline : Nat) : Distinct (record change deadline pendings) := by
  induction pendings with
  | nil => simp [Pending.record, Distinct]
  | cons head rest ih =>
      obtain ⟨apart, others⟩ := (distinct_cons head rest).mp distinct
      by_cases touched : head.path.sameAs change.path = true
      · cases merged : head.kind.merge change.kind with
        | none => simpa [Pending.record, touched, merged] using others
        | some kind =>
            have distinct' := (distinct_cons ⟨⟨head.path, kind⟩, deadline⟩ rest).mpr ⟨apart, others⟩
            simpa [Pending.record, touched, merged] using distinct'
      · have apart' : ∀ other ∈ Pending.record change deadline rest,
            other.path.components ≠ head.path.components := by
          intro other member same
          have found := ((ih others).find?_eq_some_iff head.path other).mpr
            ⟨member, (Path.sameAs_iff _ _).mpr same⟩
          have elsewhere : change.path.sameAs head.path = false := by
            simpa [Path.sameAs, eq_comm] using touched
          rw [others.find?_record, elsewhere] at found
          obtain ⟨inRest, _⟩ := (others.find?_eq_some_iff head.path other).mp (by simpa using found)
          exact apart other inRest same
        simpa [Pending.record, touched] using (distinct_cons head _).mpr ⟨apart', ih others⟩

end Pending

namespace Debouncer

theorem find?_record (debouncer : Debouncer) (now : Nat) (change : Change) (path : Path)
    (distinct : Pending.Distinct debouncer.pending) :
    (debouncer.record now change).find? path =
      if change.path.sameAs path then
        Pending.after? change (now + debouncer.quiet) (debouncer.find? path)
      else debouncer.find? path :=
  distinct.find?_record change (now + debouncer.quiet) path

theorem find?_drain (debouncer : Debouncer) (now : Nat) (path : Path)
    (distinct : Pending.Distinct debouncer.pending) :
    (debouncer.drain now).find? path = (debouncer.find? path).filter (!·.isReady now) :=
  distinct.find?_filter _ path

theorem find?_of_mem {debouncer : Debouncer} {pending : Pending}
    (distinct : Pending.Distinct debouncer.pending) (member : pending ∈ debouncer.pending) :
    debouncer.find? pending.path = some pending :=
  (distinct.find?_eq_some_iff pending.path pending).mpr ⟨member, Path.sameAs_refl _⟩

theorem mem_of_find? {debouncer : Debouncer} {path : Path} {pending : Pending}
    (found : debouncer.find? path = some pending) : pending ∈ debouncer.pending :=
  List.mem_of_find?_eq_some found

theorem mem_ready_iff (debouncer : Debouncer) (now : Nat) (change : Change)
    (distinct : Pending.Distinct debouncer.pending) :
    change ∈ debouncer.ready now ↔
      ∃ pending, debouncer.find? change.path = some pending ∧ pending.deadline ≤ now ∧
        pending.toChange = change := by
  simp only [ready, List.mem_map, List.mem_filter, Pending.isReady, decide_eq_true_eq]
  constructor
  · rintro ⟨pending, ⟨member, settled⟩, rfl⟩
    exact ⟨pending, find?_of_mem distinct member, settled, rfl⟩
  · rintro ⟨pending, found, settled, same⟩
    exact ⟨pending, ⟨mem_of_find? found, settled⟩, same⟩

theorem ready_pairwise (debouncer : Debouncer) (now : Nat)
    (distinct : Pending.Distinct debouncer.pending) :
    (debouncer.ready now).Pairwise fun left right => left.path.sameAs right.path = false := by
  have apart := distinct.filter (·.isReady now)
  rw [Pending.Distinct, List.Nodup, List.pairwise_map] at apart
  rw [ready, List.pairwise_map]
  exact apart.imp fun different => by simpa [Path.sameAs] using different

theorem nextDeadline_eq_none_iff (debouncer : Debouncer)
    (distinct : Pending.Distinct debouncer.pending) :
    debouncer.nextDeadline = none ↔ ∀ path, debouncer.find? path = none := by
  rw [nextDeadline, List.min?_eq_none_iff, List.map_eq_nil_iff]
  constructor
  · intro empty path
    simp [find?, empty]
  · intro absent
    rw [List.eq_nil_iff_forall_not_mem]
    intro pending member
    have found := find?_of_mem distinct member
    rw [absent] at found
    contradiction

theorem nextDeadline_eq_some_iff (debouncer : Debouncer) (deadline : Nat)
    (distinct : Pending.Distinct debouncer.pending) :
    debouncer.nextDeadline = some deadline ↔
      (∃ path pending, debouncer.find? path = some pending ∧ pending.deadline = deadline) ∧
        ∀ path pending, debouncer.find? path = some pending → deadline ≤ pending.deadline := by
  rw [nextDeadline, List.min?_eq_some_iff]
  simp only [List.mem_map]
  constructor
  · rintro ⟨⟨pending, member, rfl⟩, least⟩
    refine ⟨⟨pending.path, pending, find?_of_mem distinct member, rfl⟩, ?_⟩
    intro path other found
    exact least _ ⟨other, mem_of_find? found, rfl⟩
  · rintro ⟨⟨path, pending, found, rfl⟩, least⟩
    refine ⟨⟨pending, mem_of_find? found, rfl⟩, ?_⟩
    rintro _ ⟨other, member, rfl⟩
    exact least other.path other (find?_of_mem distinct member)

theorem lt_nextDeadline_drain (debouncer : Debouncer) (now deadline : Nat)
    (next : (debouncer.drain now).nextDeadline = some deadline) : now < deadline := by
  rw [nextDeadline, List.min?_eq_some_iff] at next
  obtain ⟨pending, member, rfl⟩ := List.mem_map.mp next.1
  simpa [drain, Pending.isReady] using (List.mem_filter.mp member).2

end Debouncer

end Workbench
