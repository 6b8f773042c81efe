import Workbench.Config.Load
import Workbench.Proofs.Success

set_option autoImplicit false

namespace Workbench

open Env (Environment)

def ExpandsTo (environment : Environment) (text result : String) : Prop :=
  Env.expand environment text.toList = .ok result.toList

structure Seed.ExpandsTo (environment : Environment) (seed result : Seed) : Prop where
  token : Workbench.ExpandsTo environment seed.token result.token
  hostname : Workbench.ExpandsTo environment seed.hostname result.hostname
  dc : Workbench.ExpandsTo environment seed.dc result.dc
  ip : Workbench.ExpandsTo environment seed.ip result.ip
  zone : Workbench.ExpandsTo environment seed.zone result.zone
  location : Workbench.ExpandsTo environment seed.location result.location

structure ConfigFile.ExpandsTo (environment : Environment) (file result : ConfigFile) : Prop where
  seedHost : Workbench.ExpandsTo environment file.seed.host result.seed.host
  nodes : List.Forall₂ (Seed.ExpandsTo environment) file.seed.nodes result.seed.nodes
  devHost : Workbench.ExpandsTo environment file.dev.host result.dev.host
  rewrites : List.Forall₂ (Workbench.ExpandsTo environment) file.dev.rewrites result.dev.rewrites
  others : result = { file with
    seed := { file.seed with host := result.seed.host, nodes := result.seed.nodes }
    dev := { file.dev with host := result.dev.host, rewrites := result.dev.rewrites } }

variable {environment : Environment}

theorem expandsTo_of_no_brace {text result : String} (plain : Env.hasBrace text.toList = false)
    (expands : ExpandsTo environment text result) : result = text := by
  rw [ExpandsTo, Env.expand, plain] at expands
  exact (String.toList_inj.mp (Except.ok.inj expands)).symm

theorem expandField_eq_ok_iff (field text result : String) :
    Env.expandField environment field text = .ok result ↔ ExpandsTo environment text result := by
  unfold Env.expandField ExpandsTo
  cases Env.expand environment text.toList with
  | error name => simp
  | ok expanded => simp [← String.toList_inj]

theorem ExpandsTo.unique {text result other : String} (expands : ExpandsTo environment text result)
    (expands' : ExpandsTo environment text other) : result = other := by
  rw [ExpandsTo, expands] at expands'
  exact String.toList_inj.mp (Except.ok.inj expands')

theorem Seed.expand_eq_ok_iff (seed result : Seed) (field : String) :
    seed.expand environment field = .ok result ↔ seed.ExpandsTo environment result := by
  simp only [Seed.expand, bind_eq_ok_iff, expandField_eq_ok_iff]
  constructor
  · rintro ⟨_, token, _, hostname, _, dc, _, ip, _, zone, _, location, same⟩
    obtain rfl := Except.ok.inj same
    exact ⟨token, hostname, dc, ip, zone, location⟩
  · rintro ⟨token, hostname, dc, ip, zone, location⟩
    exact ⟨_, token, _, hostname, _, dc, _, ip, _, zone, _, location, rfl⟩

theorem expandEntries_eq_iff (field : String) (index : Nat) (values results : List String) :
    Env.expandEntries environment field index values = (results, none) ↔
      List.Forall₂ (ExpandsTo environment) values results := by
  induction values generalizing index results with
  | nil => simp [Env.expandEntries, eq_comm]
  | cons value rest ih =>
      rw [Env.expandEntries, List.forall₂_cons_left_iff]
      cases first : Env.expandField environment (Env.indexed field index) value with
      | error unset =>
          simp only [Prod.mk.injEq, reduceCtorEq, and_false, false_iff]
          rintro ⟨result, _, done, _, _⟩
          rw [(expandField_eq_ok_iff _ _ _).mpr done] at first
          contradiction
      | ok result =>
          rw [expandField_eq_ok_iff] at first
          simp only [Prod.mk.injEq, ← ih (index + 1)]
          constructor
          · rintro ⟨rfl, finished⟩
            exact ⟨result, _, first, Prod.ext rfl finished, rfl⟩
          · rintro ⟨other, others, done, behind, rfl⟩
            obtain rfl := first.unique done
            exact ⟨by rw [behind], by rw [behind]⟩

theorem ConfigFile.expand_eq_ok_iff (file result : ConfigFile) :
    file.expand environment = .ok result ↔ file.ExpandsTo environment result := by
  have nodes (results : List Seed) :
      (file.seed.nodes.zipIdx.mapM fun entry =>
        entry.1.expand environment (Env.indexed "seed.nodes" entry.2)) = .ok results ↔
      List.Forall₂ (Seed.ExpandsTo environment) file.seed.nodes results := by
    simp only [mapM_eq_ok_iff, Seed.expand_eq_ok_iff]
    rw [← List.forall₂_map_left_iff (f := Prod.fst), List.zipIdx_map_fst]
  simp only [ConfigFile.expand, bind_eq_ok_iff, expandField_eq_ok_iff, nodes]
  constructor
  · rintro ⟨_, seedHost, _, nodes, _, devHost, same⟩
    split at same
    next rewrites all =>
      obtain rfl := Except.ok.inj same
      exact ⟨seedHost, nodes, devHost, (expandEntries_eq_iff _ _ _ _).mp all, rfl⟩
    next => contradiction
  · rintro ⟨seedHost, nodes, devHost, rewrites, others⟩
    refine ⟨_, seedHost, _, nodes, _, devHost, ?_⟩
    rw [Env.expandAll, (expandEntries_eq_iff _ _ _ _).mpr rewrites]
    exact congrArg Except.ok others.symm

end Workbench
