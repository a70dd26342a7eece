import Mathlib.Tactic.Common
import Calculator.Grammar

/-!
# Chains

A **chain** is a phrase whose operators bind at one level: a term at the multiplicative level, an
expression at the additive one.  The grammar writes it with a repetition, as a first operand and
then links, each an operator and one more operand.  A tree has no repetition; it leans to the left,
with the last link at its root.  Here the two are shown to be the same.

* **Trees**, `Tree.exists_chain`: each tree of a phrase is the chain of a first operand and links.
* **Tokens**, `derives_phrase_iff`: a phrase derives what the repetition in the grammar says.
* **Values**, `Tree.yields_chain_iff`: the links are combined one after the other, from the left.
-/

namespace Calculator

/-- The notion of a chain whose operators bind at the level. -/
@[simp]
def Level.phrase : Level → Notion
  | .multiplicative => .term
  | .additive => .expression

/-- The notion of the operands of such a chain. -/
@[simp]
def Level.operand : Level → Notion
  | .multiplicative => .factor
  | .additive => .term

/-- The operators of such a chain. -/
@[simp]
def Level.Has : Level → Operator → Prop
  | .multiplicative, op => op = .mul ∨ op = .div
  | .additive, op => op = .add ∨ op = .sub

/-- These are the operators that bind at the level. -/
lemma Level.has_iff {level : Level} {op : Operator} : level.Has op ↔ op.level = level := by
  cases level <;> cases op <;> simp [Operator.level]

/-- The token of such an operator. -/
lemma Token.operatorAt?_eq_some_iff_has {level : Level} {token : Token} {op : Operator} :
    token.operatorAt? level = some op ↔ token = .operator op ∧ level.Has op := by
  rw [operatorAt?_eq_some_iff, Level.has_iff]

/-- A token with which a chain does not go on is none of its operators. -/
lemma Token.ne_operator_of_has {level : Level} {token : Token} (h : token.operatorAt? level = none)
    {op : Operator} (hop : level.Has op) : token ≠ .operator op := by
  intro htoken
  cases h.symm.trans (operatorAt?_eq_some_iff_has.2 ⟨htoken, hop⟩)

/-- An operator of a chain and the operand after it. -/
structure Link (level : Level) where
  op : Operator
  binds : level.Has op
  offset : Nat
  right : Tree level.operand

/-- The tokens of a link. -/
def Link.tokens {level : Level} (link : Link level) : List (Located Token) :=
  ⟨.operator link.op, link.offset⟩ :: link.right.tokens

namespace Tree

/-- The chain of one operand. -/
def single : {level : Level} → Tree level.operand → Tree level.phrase
  | .multiplicative, only => .factor only
  | .additive, only => .term only

/-- A chain with one more link. -/
def extend : {level : Level} → Tree level.phrase → Link level → Tree level.phrase
  | .multiplicative, left, link => .product left link.op link.binds link.offset link.right
  | .additive, left, link => .sum left link.op link.binds link.offset link.right

/-- The chain of a first operand and links. -/
def chain {level : Level} (first : Tree level.operand) (links : List (Link level)) :
    Tree level.phrase :=
  links.foldl extend (single first)

/-! ## One more link -/

section

variable {level : Level}

@[simp]
lemma tokens_single (only : Tree level.operand) : (single only).tokens = only.tokens := by
  cases level <;> rfl

@[simp]
lemma tokens_extend (left : Tree level.phrase) (link : Link level) :
    (left.extend link).tokens = left.tokens ++ link.tokens := by
  cases level <;> rfl

@[simp]
lemma depth_single (only : Tree level.operand) : (single only).depth = only.depth := by
  cases level <;> rfl

@[simp]
lemma depth_extend (left : Tree level.phrase) (link : Link level) :
    (left.extend link).depth = max left.depth link.right.depth := by
  cases level <;> rfl

@[simp]
lemma yields_single {only : Tree level.operand} {value : Int} :
    (single only).Yields value ↔ only.Yields value := by
  cases level <;> rfl

@[simp]
lemma yields_extend {left : Tree level.phrase} {link : Link level} {value : Int} :
    (left.extend link).Yields value
      ↔ ∃ l r, left.Yields l ∧ link.right.Yields r ∧ Combines link.op l r value := by
  cases level <;> rfl

end

/-! ## Trees and chains -/

lemma exists_chain_extend {level : Level} {left : Tree level.phrase}
    (h : ∃ first links, left = chain first links) (link : Link level) :
    ∃ first links, left.extend link = chain first links := by
  rcases h with ⟨first, links, rfl⟩
  refine ⟨first, links ++ [link], ?_⟩
  rw [chain, chain, List.foldl_append]
  rfl

lemma exists_chain_term : ∀ tree : Tree .term,
    ∃ first links, tree = @chain .multiplicative first links
  | .factor only => ⟨only, [], rfl⟩
  | .product left op binds offset right =>
    @exists_chain_extend .multiplicative left (exists_chain_term left) ⟨op, binds, offset, right⟩

lemma exists_chain_expression : ∀ tree : Tree .expression,
    ∃ first links, tree = @chain .additive first links
  | .term only => ⟨only, [], rfl⟩
  | .sum left op binds offset right =>
    @exists_chain_extend .additive left (exists_chain_expression left) ⟨op, binds, offset, right⟩

/-- **Each phrase is a chain.** -/
theorem exists_chain {level : Level} (tree : Tree level.phrase) :
    ∃ first links, tree = chain first links := by
  cases level with
  | multiplicative => exact exists_chain_term tree
  | additive => exact exists_chain_expression tree

lemma tokens_foldl_extend {level : Level} (left : Tree level.phrase) (links : List (Link level)) :
    (links.foldl extend left).tokens = left.tokens ++ links.flatMap Link.tokens := by
  induction links generalizing left with
  | nil => exact (List.append_nil _).symm
  | cons link links ih =>
      rw [List.foldl_cons, ih, tokens_extend, List.flatMap_cons, List.append_assoc]

/-- The tokens of a chain are those of its first operand and of its links. -/
theorem tokens_chain {level : Level} (first : Tree level.operand) (links : List (Link level)) :
    (chain first links).tokens = first.tokens ++ links.flatMap Link.tokens := by
  rw [chain, tokens_foldl_extend, tokens_single]

end Tree

/-- To combine a value with links, from the left. -/
def Link.Combine {level : Level} : Int → List (Link level) → Int → Prop
  | left, [], value => value = left
  | left, link :: links, value =>
    ∃ right next, link.right.Yields right ∧ Tree.Combines link.op left right next
      ∧ Combine next links value

lemma Tree.yields_foldl_extend_iff {level : Level} {left : Tree level.phrase}
    {links : List (Link level)} {value : Int} :
    (links.foldl extend left).Yields value ↔ ∃ l, left.Yields l ∧ Link.Combine l links value := by
  induction links generalizing left with
  | nil =>
      constructor
      · intro h
        exact ⟨value, h, rfl⟩
      · rintro ⟨l, h, rfl⟩
        exact h
  | cons link links ih =>
      rw [List.foldl_cons, ih]
      simp only [yields_extend, Link.Combine]
      constructor
      · rintro ⟨next, ⟨l, r, hl, hr, hcombines⟩, hvalue⟩
        exact ⟨l, hl, r, next, hr, hcombines, hvalue⟩
      · rintro ⟨l, hl, r, next, hr, hcombines, hvalue⟩
        exact ⟨next, ⟨l, r, hl, hr, hcombines⟩, hvalue⟩

/-- **The value of a chain** is that of its first operand combined with its links from the left. -/
theorem Tree.yields_chain_iff {level : Level} {first : Tree level.operand}
    {links : List (Link level)} {value : Int} :
    (chain first links).Yields value
      ↔ ∃ left, first.Yields left ∧ Link.Combine left links value := by
  rw [chain, yields_foldl_extend_iff]
  simp only [yields_single]

/-! ## The rules of the grammar -/

/-- **The repetition in the grammar**: a phrase derives an operand and then, any number of times, an
operator of its level with one more operand. -/
theorem derives_phrase_iff {level : Level} {tokens : List (Located Token)} :
    Derives level.phrase tokens ↔
      ∃ first, Derives level.operand first ∧ ∃ links : List (Located Token × List (Located Token)),
        (∀ link ∈ links, (∃ op, link.1.value = .operator op ∧ level.Has op)
          ∧ Derives level.operand link.2)
        ∧ tokens = first ++ links.flatMap fun link => link.1 :: link.2 := by
  constructor
  · rintro ⟨tree, rfl⟩
    obtain ⟨first, links, rfl⟩ := Tree.exists_chain tree
    refine ⟨first.tokens, ⟨first, rfl⟩,
      links.map fun link => (⟨.operator link.op, link.offset⟩, link.right.tokens), ?_, ?_⟩
    · rw [List.forall_mem_map]
      intro link _
      exact ⟨⟨link.op, rfl, link.binds⟩, link.right, rfl⟩
    · rw [Tree.tokens_chain, List.flatMap_map]
      rfl
  · rintro ⟨_, ⟨first, rfl⟩, links, hlinks, rfl⟩
    obtain ⟨trees, htrees⟩ : ∃ trees : List (Link level),
        trees.flatMap Link.tokens = links.flatMap fun link => link.1 :: link.2 := by
      induction links with
      | nil => exact ⟨[], rfl⟩
      | cons link links ih =>
          rw [List.forall_mem_cons] at hlinks
          rcases hlinks with ⟨⟨⟨op, htoken, binds⟩, right, hright⟩, hlinks⟩
          obtain ⟨trees, htrees⟩ := ih hlinks
          refine ⟨⟨op, binds, link.1.offset, right⟩ :: trees, ?_⟩
          rw [List.flatMap_cons, List.flatMap_cons, htrees, Link.tokens, hright, ← htoken]
    exact ⟨Tree.chain first trees, by rw [Tree.tokens_chain, htrees]⟩

/-- A factor derives a number, or an expression in parentheses. -/
theorem derives_factor_iff {tokens : List (Located Token)} :
    Derives .factor tokens ↔
      (∃ value offset, tokens = [⟨.number value, offset⟩])
        ∨ ∃ opening inner closing, Derives .expression inner
          ∧ tokens = ⟨.leftParen, opening⟩ :: (inner ++ [⟨.rightParen, closing⟩]) := by
  constructor
  · rintro ⟨tree, rfl⟩
    cases tree with
    | number value offset => exact .inl ⟨value, offset, rfl⟩
    | group opening inner closing =>
        exact .inr ⟨opening, inner.tokens, closing, ⟨inner, rfl⟩, rfl⟩
  · rintro (⟨value, offset, rfl⟩ | ⟨opening, _, closing, ⟨inner, rfl⟩, rfl⟩)
    · exact ⟨.number value offset, rfl⟩
    · exact ⟨.group opening inner closing, rfl⟩

end Calculator
