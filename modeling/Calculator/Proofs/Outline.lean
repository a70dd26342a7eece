import Mathlib.Tactic.Common
import Calculator.Proofs.Machine

/-!
# What the machine has read

A configuration of the machine holds numbers.  An `Outline` holds, in the same places, the **trees**
of which they are the values: a tree to the left of each operation that waits, and a tree for the
operand.  So the tokens read so far can be told from an outline, and `Outline.configuration` forgets
them again.

* **One step**, `Outline.exists_take`: what the machine does with a configuration can be done with
  an outline of it, and the token it takes is then the last one read.
* **A whole run**, `Outline.exists_tree`: if the machine comes to a value, what it has read is a
  tree with that value, in which no more groups lie in each other than the limit allows.
-/

namespace Calculator.Machine

/-! ## Trees with their values -/

/-- A tree that has a value. -/
structure Valued (notion : Notion) where
  tree : Tree notion
  value : Int
  yields : tree.Yields value

/-- A tree with a value and the operator after it; the right operand is still to come. -/
structure Started (level : Level) where
  left : Valued level.phrase
  op : Operator
  binds : level.Has op
  offset : Nat

namespace Started

/-- What of it waits in the machine. -/
def pending {level : Level} (started : Started level) : Pending :=
  ⟨started.left.value, started.op, started.offset⟩

/-- The tokens of what is started, if anything is. -/
def tokens {level : Level} : Option (Started level) → List (Located Token)
  | none => []
  | some started => started.left.tree.tokens ++ [⟨.operator started.op, started.offset⟩]

/-- The greatest number of groups that lie in each other in what is started. -/
def depth {level : Level} : Option (Started level) → Nat
  | none => 0
  | some started => started.left.tree.depth

@[simp]
lemma tokens_none {level : Level} : tokens (none : Option (Started level)) = [] := rfl

@[simp]
lemma tokens_some {level : Level} (started : Started level) :
    tokens (some started) = started.left.tree.tokens ++ [⟨.operator started.op, started.offset⟩] :=
  rfl

@[simp]
lemma depth_none {level : Level} : depth (none : Option (Started level)) = 0 := rfl

@[simp]
lemma depth_some {level : Level} (started : Started level) :
    depth (some started) = started.left.tree.depth := rfl

/-- The link that the operand makes of it. -/
def link {level : Level} (started : Started level) (right : Tree level.operand) : Link level :=
  ⟨started.op, started.binds, started.offset, right⟩

/-- The chain that ends with the operand: what is started goes before it, if anything is. -/
def close {level : Level} : Option (Started level) → Tree level.operand → Tree level.phrase
  | none, right => .single right
  | some started, right => started.left.tree.extend (started.link right)

lemma tokens_close {level : Level} (started? : Option (Started level))
    (right : Tree level.operand) :
    (close started? right).tokens = tokens started? ++ right.tokens := by
  cases started? with
  | none => exact Tree.tokens_single right
  | some started =>
      rw [close, Tree.tokens_extend, tokens_some, List.append_assoc]
      rfl

lemma depth_close {level : Level} (started? : Option (Started level))
    (right : Tree level.operand) :
    (close started? right).depth = max (depth started?) right.depth := by
  cases started? with
  | none => rw [close, Tree.depth_single, depth_none, Nat.zero_max]
  | some started => exact Tree.depth_extend started.left.tree (started.link right)

/-- **To settle what waits is to close what is started.** -/
lemma exists_close {level : Level} {started? : Option (Started level)}
    {right : Valued level.operand} {value : Int}
    (h : settle (started?.map pending) right.value = .ok value) :
    ∃ whole : Valued level.phrase, whole.value = value
      ∧ whole.tree.tokens = tokens started? ++ right.tree.tokens
      ∧ whole.tree.depth = max (depth started?) right.tree.depth := by
  have hyields : (close started? right.tree).Yields value := by
    cases started? with
    | none =>
        cases h
        exact Tree.yields_single.2 right.yields
    | some started =>
        have hcombines := settle_eq_ok_iff.1 h
        exact Tree.yields_extend.2
          ⟨started.left.value, right.value, started.left.yields, right.yields, hcombines⟩
  exact ⟨⟨_, value, hyields⟩, rfl, tokens_close _ _, depth_close _ _⟩

end Started

/-! ## Outlines -/

/-- What is started inside one pair of parentheses. -/
structure Layer where
  sum? : Option (Started .additive)
  product? : Option (Started .multiplicative)

namespace Layer

/-- Nothing is started. -/
def empty : Layer :=
  ⟨none, none⟩

/-- The frame in which it waits. -/
def frame (layer : Layer) : Frame :=
  ⟨layer.sum?.map Started.pending, layer.product?.map Started.pending⟩

def tokens (layer : Layer) : List (Located Token) :=
  Started.tokens layer.sum? ++ Started.tokens layer.product?

def depth (layer : Layer) : Nat :=
  max (Started.depth layer.sum?) (Started.depth layer.product?)

/-- The expression that ends with the factor. -/
def close (layer : Layer) (last : Tree .factor) : Tree .expression :=
  Started.close layer.sum? (Started.close layer.product? last)

lemma tokens_close (layer : Layer) (last : Tree .factor) :
    (layer.close last).tokens = layer.tokens ++ last.tokens :=
  calc (layer.close last).tokens
      = Started.tokens layer.sum? ++ (Started.close layer.product? last).tokens :=
        Started.tokens_close _ _
    _ = Started.tokens layer.sum? ++ (Started.tokens layer.product? ++ last.tokens) :=
        congrArg _ (Started.tokens_close _ _)
    _ = layer.tokens ++ last.tokens := (List.append_assoc _ _ _).symm

end Layer

/-- What has been read, in the places of a configuration. -/
structure Outline where
  top : Layer
  /-- The layers around it, the innermost one first, each with the offset of the parenthesis after
  it. -/
  outer : List (Layer × Nat)
  operand? : Option (Valued .factor)

namespace Outline

/-- Nothing has been read. -/
def initial : Outline :=
  ⟨.empty, [], none⟩

/-- The configuration that remembers only the values. -/
def configuration (o : Outline) : Configuration :=
  ⟨o.top.frame, o.outer.map (·.1.frame), o.operand?.map (·.value)⟩

/-- The tokens before the innermost open group, its parenthesis included. -/
def outerTokens : List (Layer × Nat) → List (Located Token)
  | [] => []
  | (layer, opening) :: outer => outerTokens outer ++ layer.tokens ++ [⟨.leftParen, opening⟩]

/-- The tokens of the operand, if there is one. -/
def operandTokens : Option (Valued .factor) → List (Located Token)
  | none => []
  | some operand => operand.tree.tokens

/-- The tokens read so far. -/
def tokens (o : Outline) : List (Located Token) :=
  outerTokens o.outer ++ o.top.tokens ++ operandTokens o.operand?

/-- The greatest number of groups that lie in each other before the innermost open group. -/
def outerDepth : List (Layer × Nat) → Nat
  | [] => 0
  | (layer, _) :: outer => max (outerDepth outer) (outer.length + layer.depth)

def operandDepth : Option (Valued .factor) → Nat
  | none => 0
  | some operand => operand.tree.depth

/-- The greatest number of groups that lie in each other so far, open ones included. -/
def depth (o : Outline) : Nat :=
  max (outerDepth o.outer) (o.outer.length + max o.top.depth (operandDepth o.operand?))

end Outline

namespace Configuration

/-! ## What a step can do -/

/-- The machine takes a number or a parenthesis where it wants an operand. -/
lemma want_eq_ok {limit : Nat} {top : Frame} {outer : List Frame} {token : Located Token}
    {c : Configuration} (h : want limit top outer token = .ok c) :
    (∃ value, token.value = .number value ∧ c = ⟨top, outer, some value⟩)
      ∨ (token.value = .leftParen ∧ outer.length < limit ∧ c = ⟨.empty, top :: outer, none⟩) := by
  rw [want] at h
  split at h
  · rename_i value htoken
    cases h
    exact .inl ⟨value, htoken, rfl⟩
  · rename_i htoken
    split at h
    · cases h
    · rename_i hroom
      cases h
      exact .inr ⟨htoken, Nat.lt_of_not_le hroom, rfl⟩
  · cases h

/-- Where it holds an operand it settles what the token does not leave waiting, and then takes an
operator or the end of a group. -/
lemma hold_eq_ok {top : Frame} {outer : List Frame} {operand : Int} {token : Located Token}
    {c : Configuration} (h : hold top outer operand token = .ok c) :
    ∃ term, settle top.multiplicative? operand = .ok term ∧
      ((∃ op, token.value.operatorAt? .multiplicative = some op
          ∧ c = ⟨⟨top.additive?, some ⟨term, op, token.offset⟩⟩, outer, none⟩)
        ∨ ∃ value, settle top.additive? term = .ok value ∧
          ((∃ op, token.value.operatorAt? .additive = some op
              ∧ c = ⟨⟨some ⟨value, op, token.offset⟩, none⟩, outer, none⟩)
            ∨ (∃ below rest, outer = below :: rest ∧ token.value = .rightParen
              ∧ c = ⟨below, rest, some value⟩))) := by
  simp only [hold, factorOperator?_eq, termOperator?_eq] at h
  obtain ⟨term, hterm, h⟩ := bind_eq_ok_iff.1 h
  refine ⟨term, hterm, ?_⟩
  split at h
  · rename_i op hop
    cases h
    exact .inl ⟨op, hop, rfl⟩
  · obtain ⟨value, hvalue, h⟩ := bind_eq_ok_iff.1 h
    refine .inr ⟨value, hvalue, ?_⟩
    split at h
    · rename_i op hop
      cases h
      exact .inl ⟨op, hop, rfl⟩
    · cases outer with
      | nil => cases h
      | cons below rest =>
          dsimp only at h
          split at h
          · rename_i htoken
            cases h
            exact .inr ⟨below, rest, rfl, htoken, rfl⟩
          · cases h

end Configuration

namespace Layer

/-- **What a layer waits for, settled**: first the product with the operand, then the sum. -/
lemma exists_product {layer : Layer} {operand : Valued .factor} {value : Int}
    (h : settle layer.frame.multiplicative? operand.value = .ok value) :
    ∃ term : Valued .term, term.value = value
      ∧ term.tree.tokens = Started.tokens layer.product? ++ operand.tree.tokens
      ∧ term.tree.depth = max (Started.depth layer.product?) operand.tree.depth :=
  @Started.exists_close .multiplicative _ operand value h

lemma exists_sum {layer : Layer} {term : Valued .term} {value : Int}
    (h : settle layer.frame.additive? term.value = .ok value) :
    ∃ expression : Valued .expression, expression.value = value
      ∧ expression.tree.tokens = Started.tokens layer.sum? ++ term.tree.tokens
      ∧ expression.tree.depth = max (Started.depth layer.sum?) term.tree.depth :=
  @Started.exists_close .additive _ term value h

end Layer

namespace Outline

/-- An operand read where one is wanted. -/
lemma exists_take_of_want {limit : Nat} {top : Layer} {outer : List (Layer × Nat)}
    {token : Located Token} {c : Configuration}
    (h : Configuration.want limit top.frame (outer.map (·.1.frame)) token = .ok c) :
    ∃ o' : Outline, o'.configuration = c ∧ o'.tokens = tokens ⟨top, outer, none⟩ ++ [token]
      ∧ (depth ⟨top, outer, none⟩ ≤ limit → o'.depth ≤ limit) := by
  rcases token with ⟨token, offset⟩
  rcases Configuration.want_eq_ok h with ⟨value, rfl, rfl⟩ | ⟨rfl, hroom, rfl⟩
  · refine ⟨⟨top, outer, some ⟨.number value offset, value, rfl⟩⟩, rfl, ?_, fun hdepth => hdepth⟩
    simp [tokens, operandTokens, Tree.tokens]
  · refine ⟨⟨.empty, (top, offset) :: outer, none⟩, rfl, ?_, ?_⟩
    · simp [tokens, outerTokens, operandTokens, Layer.tokens, Layer.empty]
    · simp only [depth, outerDepth, operandDepth, Layer.depth, Layer.empty, Started.depth_none,
        List.length_cons, List.length_map] at hroom ⊢
      omega

/-- An operator or the end of a group read where an operand is held. -/
lemma exists_take_of_hold {limit : Nat} {top : Layer} {outer : List (Layer × Nat)}
    {operand : Valued .factor} {token : Located Token} {c : Configuration}
    (h : Configuration.hold top.frame (outer.map (·.1.frame)) operand.value token = .ok c) :
    ∃ o' : Outline, o'.configuration = c
      ∧ o'.tokens = tokens ⟨top, outer, some operand⟩ ++ [token]
      ∧ (depth ⟨top, outer, some operand⟩ ≤ limit → o'.depth ≤ limit) := by
  rcases token with ⟨token, offset⟩
  obtain ⟨_, hterm, h⟩ := Configuration.hold_eq_ok h
  obtain ⟨term, rfl, htermTokens, htermDepth⟩ := Layer.exists_product hterm
  rcases h with ⟨op, hop, rfl⟩ | ⟨_, hsum, h⟩
  · obtain ⟨htoken, binds⟩ := Token.operatorAt?_eq_some_iff_has.1 hop
    obtain rfl : token = .operator op := htoken
    refine ⟨⟨⟨top.sum?, some ⟨term, op, binds, offset⟩⟩, outer, none⟩, rfl, ?_, ?_⟩
    · simp [tokens, operandTokens, Layer.tokens, htermTokens]
    · simp only [depth, operandDepth, Layer.depth, Started.depth_some, Level.phrase,
        htermDepth]
      omega
  · obtain ⟨expression, rfl, hsumTokens, hsumDepth⟩ := Layer.exists_sum hsum
    rcases h with ⟨op, hop, rfl⟩ | ⟨below, rest, houter, htoken, rfl⟩
    · obtain ⟨htoken, binds⟩ := Token.operatorAt?_eq_some_iff_has.1 hop
      obtain rfl : token = .operator op := htoken
      refine ⟨⟨⟨some ⟨expression, op, binds, offset⟩, none⟩, outer, none⟩, rfl, ?_, ?_⟩
      · simp [tokens, operandTokens, Layer.tokens, htermTokens, hsumTokens]
      · simp only [depth, operandDepth, Layer.depth, Started.depth_none,
          Started.depth_some, Level.phrase, hsumDepth, htermDepth]
        omega
    · obtain rfl : token = .rightParen := htoken
      obtain ⟨⟨layer, opening⟩, outer, rfl, rfl, rfl⟩ := List.map_eq_cons_iff.1 houter
      refine ⟨⟨layer, outer, some ⟨.group opening expression.tree offset, expression.value,
        expression.yields⟩⟩, rfl, ?_, ?_⟩
      · simp [tokens, outerTokens, operandTokens, Layer.tokens, Tree.tokens, htermTokens,
          hsumTokens]
      · simp only [depth, outerDepth, operandDepth, Layer.depth, Tree.depth, htermDepth, hsumDepth,
          List.length_cons]
        omega

/-- **What the machine does with a configuration can be done with an outline of it.** -/
theorem exists_take {limit : Nat} {o : Outline} {token : Located Token} {c : Configuration}
    (h : o.configuration.take limit token = .ok c) :
    ∃ o' : Outline, o'.configuration = c ∧ o'.tokens = o.tokens ++ [token]
      ∧ (o.depth ≤ limit → o'.depth ≤ limit) := by
  rcases o with ⟨top, outer, _ | operand⟩
  · exact exists_take_of_want h
  · exact exists_take_of_hold h

/-- If the machine can finish with a value, the outline is that of a whole expression. -/
lemma exists_finish {o : Outline} {offset : Nat} {value : Int}
    (h : o.configuration.finish offset = .ok value) :
    ∃ tree : Tree .expression, tree.tokens = o.tokens ∧ tree.Yields value
      ∧ tree.depth ≤ o.depth := by
  rcases o with ⟨top, outer, _ | operand⟩
  · cases h
  · obtain ⟨_, hterm, h⟩ := bind_eq_ok_iff.1 h
    obtain ⟨term, rfl, htermTokens, htermDepth⟩ := Layer.exists_product hterm
    obtain ⟨_, hsum, h⟩ := bind_eq_ok_iff.1 h
    obtain ⟨expression, rfl, hsumTokens, hsumDepth⟩ := Layer.exists_sum hsum
    cases outer with
    | cons layer outer => cases h
    | nil =>
        cases h
        refine ⟨expression.tree, ?_, expression.yields, ?_⟩
        · simp [tokens, outerTokens, operandTokens, Layer.tokens, htermTokens, hsumTokens]
        · simp only [depth, operandDepth, Layer.depth, htermDepth, hsumDepth]
          omega

/-- **What the machine has read when it comes to a value** is a tree that has this value, and there
was room for its groups. -/
theorem exists_tree {limit : Nat} {o : Outline} (hdepth : o.depth ≤ limit) {stream : TokenStream}
    {value : Int} (h : o.configuration.outcome limit stream = .ok value) :
    (∃ offset, stream.ending = .endOfInput offset) ∧ ∃ tree : Tree .expression,
      tree.tokens = o.tokens ++ stream.tokens ∧ tree.Yields value ∧ tree.depth ≤ limit := by
  rcases stream with ⟨tokens, ending⟩
  induction tokens generalizing o with
  | nil =>
      cases ending with
      | endOfInput offset =>
          obtain ⟨tree, htokens, hyields, htree⟩ := exists_finish h
          exact ⟨⟨offset, rfl⟩, tree, by simpa using htokens, hyields, Nat.le_trans htree hdepth⟩
      | failure error => cases h
  | cons token tokens ih =>
      obtain ⟨_, htake, h⟩ := bind_eq_ok_iff.1 h
      obtain ⟨o', rfl, hread, hlimit⟩ := exists_take htake
      obtain ⟨hending, tree, htokens, hyields, htree⟩ := ih (hlimit hdepth) h
      refine ⟨hending, tree, ?_, hyields, htree⟩
      rw [htokens, hread, List.append_assoc]
      rfl

end Outline

end Calculator.Machine
