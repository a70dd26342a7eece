import Mathlib.Tactic.Common
import Calculator.Grammar

/-!
# The grammar is unambiguous

A list of tokens derives from a notion in at most one way: `Tree.tokens_injective`.

A chain leans to the left, so its last operand hangs at its root, and two trees with the same tokens
are compared **from the right**.  What has to be excluded is that one tree goes on to the left where
the other one stops.  That depends on a single token, the one before the phrase: `Notion.Parts` says
that it is no operator by which the phrase could go on.
-/

namespace Calculator

namespace Notion

/-- Whether a phrase of the notion can go on to the left by the operator. -/
def Joins : Notion → Operator → Prop
  | .factor, _ => False
  | .term, op => op = .mul ∨ op = .div
  | .expression, _ => True

/-- A phrase of the notion after these tokens cannot go on into them. -/
def Parts (notion : Notion) (before : List (Located Token)) : Prop :=
  ∀ token ∈ before.getLast?, ∀ op, token.value = .operator op → ¬notion.Joins op

lemma parts_nil (notion : Notion) : notion.Parts [] := by
  simp [Parts]

lemma parts_factor (before : List (Located Token)) : factor.Parts before :=
  fun _ _ _ _ h => h

/-- A term goes on by fewer operators than an expression. -/
lemma Parts.term {before : List (Located Token)} (h : expression.Parts before) :
    Notion.term.Parts before :=
  fun token ht op hop _ => h token ht op hop trivial

lemma parts_operator {notion : Notion} {before : List (Located Token)} {op : Operator}
    {offset : Nat} : notion.Parts (before ++ [⟨.operator op, offset⟩]) ↔ ¬notion.Joins op := by
  simp [Parts]

lemma parts_leftParen {notion : Notion} {before : List (Located Token)} {offset : Nat} :
    notion.Parts (before ++ [⟨.leftParen, offset⟩]) := by
  simp [Parts]

lemma not_joins_term {op : Operator} (binds : op = .add ∨ op = .sub) : ¬term.Joins op := by
  rcases binds with rfl | rfl <;> simp [Joins]

end Notion

namespace Tree

/-- Two lists with the same tokens have the same last token, and the same tokens before it. -/
lemma snoc_inj {before before' : List (Located Token)} {token token' : Located Token}
    (h : before ++ [token] = before' ++ [token']) : before = before' ∧ token = token' := by
  simpa using List.append_inj' h rfl

/-! ## Compound trees, seen from their last token or operand -/

lemma append_tokens_group (before : List (Located Token)) (opening : Nat)
    (inner : Tree .expression) (closing : Nat) :
    before ++ (group opening inner closing).tokens
      = (before ++ [⟨.leftParen, opening⟩] ++ inner.tokens) ++ [⟨.rightParen, closing⟩] := by
  simp [tokens]

lemma append_tokens_product (before : List (Located Token)) (left : Tree .term) (op : Operator)
    (binds : op = .mul ∨ op = .div) (offset : Nat) (right : Tree .factor) :
    before ++ (product left op binds offset right).tokens
      = (before ++ left.tokens ++ [⟨.operator op, offset⟩]) ++ right.tokens := by
  simp [tokens]

lemma append_tokens_sum (before : List (Located Token)) (left : Tree .expression) (op : Operator)
    (binds : op = .add ∨ op = .sub) (offset : Nat) (right : Tree .term) :
    before ++ (sum left op binds offset right).tokens
      = (before ++ left.tokens ++ [⟨.operator op, offset⟩]) ++ right.tokens := by
  simp [tokens]

/-! ## Reading from the right -/

/-- Whoever comes from the right finds this tree in its tokens and no other, and finds where it
begins. -/
def Determined {notion : Notion} (tree : Tree notion) : Prop :=
  ∀ (other : Tree notion) {before before' : List (Located Token)},
    before ++ tree.tokens = before' ++ other.tokens → notion.Parts before → notion.Parts before' →
      before = before' ∧ tree = other

/-- Two operations with the same tokens: first the right operands are the same, then the operators,
then the left operands. -/
lemma Determined.operation {m n : Notion} {left : Tree m} {right : Tree n} (hl : left.Determined)
    (hr : right.Determined) (left' : Tree m) (right' : Tree n) {op op' : Operator}
    {offset offset' : Nat} (hop : ¬n.Joins op) (hop' : ¬n.Joins op')
    {before before' : List (Located Token)}
    (h : (before ++ left.tokens ++ [⟨.operator op, offset⟩]) ++ right.tokens
      = (before' ++ left'.tokens ++ [⟨.operator op', offset'⟩]) ++ right'.tokens)
    (hb : m.Parts before) (hb' : m.Parts before') :
    before = before' ∧ left = left' ∧ op = op' ∧ offset = offset' ∧ right = right' := by
  obtain ⟨hright, rfl⟩ :=
    hr right' h (Notion.parts_operator.2 hop) (Notion.parts_operator.2 hop')
  obtain ⟨hleft, htoken⟩ := snoc_inj hright
  obtain ⟨rfl, rfl⟩ := hl left' hleft hb hb'
  cases htoken
  exact ⟨rfl, rfl, rfl, rfl, rfl⟩

theorem determined {notion : Notion} (tree : Tree notion) : tree.Determined := by
  induction tree with
  | number value offset =>
      intro other before before' h _ _
      cases other with
      | number value' offset' =>
          obtain ⟨rfl, htoken⟩ := snoc_inj h
          cases htoken
          exact ⟨rfl, rfl⟩
      | group opening inner closing =>
          rw [append_tokens_group] at h
          cases (snoc_inj h).2
  | group opening inner closing ih =>
      intro other before before' h _ _
      rw [append_tokens_group] at h
      cases other with
      | number value' offset' => cases (snoc_inj h).2
      | group opening' inner' closing' =>
          rw [append_tokens_group] at h
          obtain ⟨hinner, hclosing⟩ := snoc_inj h
          obtain ⟨houter, rfl⟩ := ih inner' hinner Notion.parts_leftParen Notion.parts_leftParen
          obtain ⟨rfl, hopening⟩ := snoc_inj houter
          cases hopening
          cases hclosing
          exact ⟨rfl, rfl⟩
  | factor only ih =>
      intro other before before' h hb hb'
      cases other with
      | factor only' =>
          obtain ⟨rfl, rfl⟩ := ih only' h (Notion.parts_factor _) (Notion.parts_factor _)
          exact ⟨rfl, rfl⟩
      | product left op binds offset right =>
          -- the operator would stand right before a factor that goes on by it
          rw [append_tokens_product] at h
          obtain ⟨rfl, -⟩ := ih right h (Notion.parts_factor _) (Notion.parts_factor _)
          exact absurd binds (Notion.parts_operator.1 hb)
  | product left op binds offset right ihl ihr =>
      intro other before before' h hb hb'
      rw [append_tokens_product] at h
      cases other with
      | factor only =>
          obtain ⟨rfl, -⟩ := ihr only h (Notion.parts_factor _) (Notion.parts_factor _)
          exact absurd binds (Notion.parts_operator.1 hb')
      | product left' op' binds' offset' right' =>
          rw [append_tokens_product] at h
          obtain ⟨rfl, rfl, rfl, rfl, rfl⟩ :=
            ihl.operation ihr left' right' (fun hjoins => hjoins) (fun hjoins => hjoins) h hb hb'
          exact ⟨rfl, rfl⟩
  | term only ih =>
      intro other before before' h hb hb'
      cases other with
      | term only' =>
          obtain ⟨rfl, rfl⟩ := ih only' h hb.term hb'.term
          exact ⟨rfl, rfl⟩
      | sum left op binds offset right =>
          rw [append_tokens_sum] at h
          obtain ⟨rfl, -⟩ :=
            ih right h hb.term (Notion.parts_operator.2 (Notion.not_joins_term binds))
          exact absurd trivial (Notion.parts_operator.1 hb)
  | sum left op binds offset right ihl ihr =>
      intro other before before' h hb hb'
      rw [append_tokens_sum] at h
      cases other with
      | term only =>
          obtain ⟨rfl, -⟩ :=
            ihr only h (Notion.parts_operator.2 (Notion.not_joins_term binds)) hb'.term
          exact absurd trivial (Notion.parts_operator.1 hb')
      | sum left' op' binds' offset' right' =>
          rw [append_tokens_sum] at h
          obtain ⟨rfl, rfl, rfl, rfl, rfl⟩ :=
            ihl.operation ihr left' right' (Notion.not_joins_term binds)
              (Notion.not_joins_term binds') h hb hb'
          exact ⟨rfl, rfl⟩

/-- **The grammar is unambiguous**: tokens derive from a notion in one way at most. -/
theorem tokens_injective (notion : Notion) : Function.Injective (@tokens notion) := by
  intro tree other h
  have happend : [] ++ tree.tokens = [] ++ other.tokens := by rw [h]
  exact (tree.determined other happend (Notion.parts_nil _) (Notion.parts_nil _)).2

end Tree

end Calculator
