import Workbench.Json.Reader
import Workbench.Proofs.Json.Quoted

set_option autoImplicit false

namespace Workbench.Json

inductive Value.Textual : Value -> Prop
  | null : Textual .null
  | bool (value : Bool) : Textual (.bool value)
  | string (text : String) : Textual (.string text)
  | array (items : List Value) (textual : ∀ item ∈ items, Textual item) : Textual (.array items)
  | object (members : List (String × Value))
      (textual : ∀ member ∈ members, Textual member.2) : Textual (.object members)

theorem render_array (items : List Value) :
    (Value.array items).render = '[' :: Text.joinWith ',' (items.map Value.render) ++ [']'] := by
  rw [Value.render]
  simp

def renderMember (member : String × Value) : List Char :=
  renderString member.1 ++ ':' :: member.2.render

theorem render_object (members : List (String × Value)) :
    (Value.object members).render =
      '\x7b' :: Text.joinWith ',' (members.map renderMember) ++ ['\x7d'] := by
  have pieces : members.attach.map (fun member => renderMember member.val) =
      members.map renderMember := List.attach_map_val
  rw [Value.render, ← pieces]
  rfl

def Cuts (text : List Char) (tokens : List Token) : Prop :=
  ∀ rest, tokens? (text ++ rest) = (tokens? rest).map (tokens ++ ·)

theorem Cuts.append {front behind : List Char} {tokens others : List Token}
    (left : Cuts front tokens) (right : Cuts behind others) :
    Cuts (front ++ behind) (tokens ++ others) := by
  intro rest
  rw [List.append_assoc, left, right, Option.map_map]
  simp only [Function.comp_def, List.append_assoc]

theorem cuts_of_token? {char : Char} {text : List Char} {token : Token}
    (dark : isBlank char = false)
    (cut : ∀ rest, token? (char :: text ++ rest) = some (token, rest)) :
    Cuts (char :: text) [token] := by
  intro rest
  have first := cut rest
  rw [List.cons_append] at first ⊢
  rw [tokens?.eq_2, if_neg (by simp [dark]), first]
  dsimp only
  rw [Text.resume_append]
  rfl

theorem cuts_renderString (text : String) : Cuts (renderString text) [.scalar (.string text)] :=
  cuts_of_token? (by decide) (token?_renderString text)

structure Value.WrittenAs (value : Value) (tokens : List Token) : Prop where
  cut : Cuts value.render tokens
  read (rest : List Token) : value? (tokens ++ rest) = some (value, rest)

theorem items?_last {tokens rest : List Token} {value : Value}
    (read : value? (tokens ++ .closeArray :: rest) = some (value, .closeArray :: rest)) :
    items? (tokens ++ .closeArray :: rest) = some ([value], rest) := by
  rw [items?, read]
  dsimp only
  rw [Text.resume_append]

theorem items?_more {tokens rest : List Token} {value : Value}
    (read : value? (tokens ++ .comma :: rest) = some (value, .comma :: rest)) :
    items? (tokens ++ .comma :: rest) =
      (items? rest).map fun (values, after) => (value :: values, after) := by
  rw [items?, read]
  dsimp only
  rw [Text.resume_append]

theorem exists_items {items : List Value} (nonempty : items ≠ [])
    (written : ∀ item ∈ items, ∃ tokens, item.WrittenAs tokens) :
    ∃ tokens, Cuts (Text.joinWith ',' (items.map Value.render)) tokens ∧
      ∀ rest, items? (tokens ++ .closeArray :: rest) = some (items, rest) := by
  induction items with
  | nil => contradiction
  | cons item items ih =>
      rw [List.forall_mem_cons] at written
      obtain ⟨⟨tokens, first⟩, others⟩ := written
      cases items with
      | nil => exact ⟨tokens, first.cut, fun rest => items?_last (first.read _)⟩
      | cons next items =>
          obtain ⟨behind, cut, read⟩ := ih (List.cons_ne_nil _ _) others
          have comma : Cuts [','] [.comma] := cuts_of_token? (by decide) fun _ => rfl
          refine ⟨tokens ++ .comma :: behind, first.cut.append (comma.append cut), ?_⟩
          intro rest
          rw [List.append_assoc, List.cons_append, items?_more (first.read _), read]
          rfl

theorem members?_last {key : String} {tokens rest : List Token} {value : Value}
    (read : value? (tokens ++ .closeObject :: rest) = some (value, .closeObject :: rest)) :
    members? (.scalar (.string key) :: .colon :: tokens ++ .closeObject :: rest) =
      some ([(key, value)], rest) := by
  rw [List.cons_append, List.cons_append, members?, read]
  dsimp only
  rw [Text.resume_append]

theorem members?_more {key : String} {tokens rest : List Token} {value : Value}
    (read : value? (tokens ++ .comma :: rest) = some (value, .comma :: rest)) :
    members? (.scalar (.string key) :: .colon :: tokens ++ .comma :: rest) =
      (members? rest).map fun (members, after) => ((key, value) :: members, after) := by
  rw [List.cons_append, List.cons_append, members?, read]
  dsimp only
  rw [Text.resume_append]

theorem exists_members {members : List (String × Value)} (nonempty : members ≠ [])
    (written : ∀ member ∈ members, ∃ tokens, member.2.WrittenAs tokens) :
    ∃ tokens, Cuts (Text.joinWith ',' (members.map renderMember)) tokens ∧
      ∀ rest, members? (tokens ++ .closeObject :: rest) = some (members, rest) := by
  have colon : Cuts [':'] [.colon] := cuts_of_token? (by decide) fun _ => rfl
  have comma : Cuts [','] [.comma] := cuts_of_token? (by decide) fun _ => rfl
  induction members with
  | nil => contradiction
  | cons member members ih =>
      obtain ⟨key, value⟩ := member
      rw [List.forall_mem_cons] at written
      obtain ⟨⟨tokens, first⟩, others⟩ := written
      have whole : Cuts (renderMember (key, value)) (.scalar (.string key) :: .colon :: tokens) :=
        (cuts_renderString key).append (colon.append first.cut)
      cases members with
      | nil => exact ⟨_, whole, fun rest => members?_last (first.read _)⟩
      | cons next members =>
          obtain ⟨behind, cut, read⟩ := ih (List.cons_ne_nil _ _) others
          refine ⟨_, whole.append (comma.append cut), ?_⟩
          intro rest
          rw [List.append_assoc, List.append_assoc, List.singleton_append,
            members?_more (first.read _), read]
          rfl

theorem items?_closeArray (rest : List Token) : items? (.closeArray :: rest) = none := by
  rw [items?, value?]
  all_goals simp

theorem members?_closeObject (rest : List Token) : members? (.closeObject :: rest) = none := by
  rw [members?]
  all_goals simp

-- What stands in an array cannot begin with the end of it.
theorem value?_array {items : List Value} {tokens rest : List Token}
    (read : items? tokens = some (items, rest)) :
    value? (.openArray :: tokens) = some (.array items, rest) := by
  rw [value?.eq_3, read, Option.map_some]
  rintro others rfl
  rw [items?_closeArray] at read
  contradiction

theorem value?_object {members : List (String × Value)} {tokens rest : List Token}
    (read : members? tokens = some (members, rest)) :
    value? (.openObject :: tokens) = some (.object members, rest) := by
  rw [value?.eq_5, read, Option.map_some]
  rintro others rfl
  rw [members?_closeObject] at read
  contradiction

theorem exists_writtenAs_array {items : List Value}
    (written : ∀ item ∈ items, ∃ tokens, item.WrittenAs tokens) :
    ∃ tokens, (Value.array items).WrittenAs tokens := by
  have opening : Cuts ['['] [.openArray] := cuts_of_token? (by decide) fun _ => rfl
  have closing : Cuts [']'] [.closeArray] := cuts_of_token? (by decide) fun _ => rfl
  by_cases empty : items = []
  · subst empty
    exact ⟨_, render_array [] ▸ opening.append closing, fun rest => value?.eq_2 rest⟩
  · obtain ⟨tokens, cut, read⟩ := exists_items empty written
    refine ⟨_, render_array items ▸ (opening.append cut).append closing, ?_⟩
    intro rest
    rw [List.append_assoc, List.append_assoc]
    exact value?_array (read rest)

theorem exists_writtenAs_object {members : List (String × Value)}
    (written : ∀ member ∈ members, ∃ tokens, member.2.WrittenAs tokens) :
    ∃ tokens, (Value.object members).WrittenAs tokens := by
  have opening : Cuts ['\x7b'] [.openObject] := cuts_of_token? (by decide) fun _ => rfl
  have closing : Cuts ['\x7d'] [.closeObject] := cuts_of_token? (by decide) fun _ => rfl
  by_cases empty : members = []
  · subst empty
    exact ⟨_, render_object [] ▸ opening.append closing, fun rest => value?.eq_4 rest⟩
  · obtain ⟨tokens, cut, read⟩ := exists_members empty written
    refine ⟨_, render_object members ▸ (opening.append cut).append closing, ?_⟩
    intro rest
    rw [List.append_assoc, List.append_assoc]
    exact value?_object (read rest)

theorem exists_writtenAs_scalar {value : Value} (cut : Cuts value.render [.scalar value]) :
    ∃ tokens, value.WrittenAs tokens :=
  ⟨_, cut, value?.eq_1 value⟩

theorem Value.Textual.exists_writtenAs {value : Value} (textual : value.Textual) :
    ∃ tokens, value.WrittenAs tokens := by
  induction textual with
  | null =>
      apply exists_writtenAs_scalar
      rw [Value.render]
      exact cuts_of_token? (by decide) fun _ => rfl
  | bool value =>
      apply exists_writtenAs_scalar
      cases value <;> rw [Value.render] <;> exact cuts_of_token? (by decide) fun _ => rfl
  | string text =>
      apply exists_writtenAs_scalar
      rw [Value.render]
      exact cuts_renderString text
  | array items _ ih => exact exists_writtenAs_array ih
  | object members _ ih => exact exists_writtenAs_object ih

theorem parse?_render {value : Value} (textual : value.Textual) :
    parse? value.render = some value := by
  obtain ⟨tokens, written⟩ := textual.exists_writtenAs
  have cut := written.cut []
  have read := written.read []
  rw [List.append_nil, tokens?.eq_1, Option.map_some] at cut
  rw [parse?, cut, Option.bind_some, read]

end Workbench.Json
