import Mathlib.Tactic.Common
import Calculator.Machine
import Calculator.Proofs.Chains
import Calculator.Proofs.Operations

/-!
# How the machine reads

Laws of the operator-precedence machine, first for one token and then for a whole stream.

The machine tells operators apart and computes by itself.  That it does both as an evaluation does
is said first: `factorOperator?_eq`, `termOperator?_eq` and `settle_some`.

The laws of chains are stated once for both levels.  Before a chain the frame is open for it
(`Frame.Opens`), inside it an operation may wait (`Frame.await`), and the chain is over when the
stream goes on with something that carries out what waits (`Ends`).

The main statement is `Configuration.reads_tree`: from a configuration that wants a phrase, reading
the tokens of a tree comes to the same as computing the tree.
-/

namespace Calculator

/-- The operator of a token binds at one level only. -/
lemma Token.operatorAt?_eq_none {token : Token} {op : Operator} {level other : Level}
    (hop : token.operatorAt? level = some op) (hne : level ≠ other) :
    token.operatorAt? other = none := by
  obtain ⟨rfl, rfl⟩ := operatorAt?_eq_some_iff.1 hop
  simp [operatorAt?, operator?, hne]

namespace Machine

/-! ## Operators and operations -/

/-- The machine takes for operators between factors those that bind tighter. -/
lemma factorOperator?_eq (token : Token) :
    factorOperator? token = token.operatorAt? .multiplicative := by
  cases token with
  | operator op => cases op <;> rfl
  | _ => rfl

/-- It takes for operators between terms the others. -/
lemma termOperator?_eq (token : Token) : termOperator? token = token.operatorAt? .additive := by
  cases token with
  | operator op => cases op <;> rfl
  | _ => rfl

@[simp]
lemma settle_none (right : Int) : settle none right = .ok right := rfl

/-- The machine carries out what waits by checked arithmetic. -/
lemma settle_some (pending : Pending) (right : Int) :
    settle (some pending) right
      = (pending.op.apply pending.left right pending.offset).mapError (Located.map .runtime) := by
  have hresult : pending.result right = pending.op.exact pending.left right := by
    rw [Pending.result]
    cases pending.op <;> rfl
  have hrange : (-9223372036854775808 ≤ pending.result right
      ∧ pending.result right ≤ 9223372036854775807)
        ↔ InRange (pending.op.exact pending.left right) := by
    rw [hresult]
    exact Iff.rfl
  rw [settle, Operator.apply]
  split
  · rfl
  · simp only [hrange]
    split
    · rw [hresult]
      rfl
    · rfl

lemma settle_eq_ok_iff {pending : Pending} {right value : Int} :
    settle (some pending) right = .ok value
      ↔ Tree.Combines pending.op pending.left right value := by
  have happly := @Operator.apply_eq_ok_iff pending.op pending.left right value pending.offset
  rw [← happly, settle_some, mapError_eq_ok_iff]

/-! ## Chains -/

/-- The frames in which the machine begins to read a phrase of the notion. -/
def Frame.Opens : Notion → Frame → Prop
  | .factor, _ => True
  | .term, frame => frame.multiplicative? = none
  | .expression, frame => frame = .empty

/-- A frame in which, moreover, an operation of the level waits. -/
def Frame.await (frame : Frame) : Level → Pending → Frame
  | .multiplicative, pending => { frame with multiplicative? := some pending }
  | .additive, pending => { frame with additive? := some pending }

/-- Where an operation waits, its right operand can be read. -/
lemma Frame.Opens.await {level : Level} {frame : Frame} (h : frame.Opens level.phrase)
    (pending : Pending) : (frame.await level pending).Opens level.operand := by
  cases level with
  | additive => obtain rfl := h; rfl
  | multiplicative => trivial

/-- Where a chain can be read, its first operand can. -/
lemma Frame.Opens.operand {level : Level} {frame : Frame} (h : frame.Opens level.phrase) :
    frame.Opens level.operand := by
  cases level with
  | additive => obtain rfl := h; rfl
  | multiplicative => trivial

/-- The streams before which the machine is done with a phrase of the notion: what waits for the
phrase is carried out before anything else happens. -/
def Ends : Notion → TokenStream → Prop
  | .factor, _ => True
  | .term, ⟨_ :: _, _⟩ => True
  | .expression, ⟨token :: _, _⟩ => token.value.operatorAt? .multiplicative = none
  | _, ⟨[], .endOfInput _⟩ => True
  | _, ⟨[], .failure _⟩ => False

lemma Ends.operand (level : Level) {stream : TokenStream} (h : Ends level.phrase stream) :
    Ends level.operand stream := by
  cases level with
  | multiplicative => trivial
  | additive =>
      rcases stream with ⟨_ | ⟨token, tokens⟩, _ | _⟩
      · trivial
      · exact h
      · trivial
      · trivial

lemma Ends.of_operator {level : Level} {token : Located Token} {op : Operator}
    (hop : token.value.operatorAt? level = some op) {tokens : List (Located Token)}
    {ending : Ending} : Ends level.phrase ⟨token :: tokens, ending⟩ := by
  cases level with
  | multiplicative => trivial
  | additive => exact Token.operatorAt?_eq_none hop (by decide)

namespace Configuration

/-! ## One token -/

lemma take_leftParen {token : Located Token} (htoken : token.value = .leftParen) {limit : Nat}
    {outer : List Frame} (hroom : ¬limit ≤ outer.length) (top : Frame) :
    take limit ⟨top, outer, none⟩ token = .ok ⟨.empty, top :: outer, none⟩ := by
  simp only [take, want, htoken, if_neg hroom]

lemma take_rightParen {token : Located Token} (htoken : token.value = .rightParen) (limit : Nat)
    (below : Frame) (outer : List Frame) (value : Int) :
    take limit ⟨.empty, below :: outer, some value⟩ token = .ok ⟨below, outer, some value⟩ := by
  simp only [take, hold, Frame.empty, settle_none, ok_bind, htoken]
  rfl

lemma take_operator {level : Level} {top : Frame} (hopens : top.Opens level.phrase)
    {token : Located Token} {op : Operator} (hop : token.value.operatorAt? level = some op)
    (limit : Nat) (outer : List Frame) (left : Int) :
    take limit ⟨top, outer, some left⟩ token
      = .ok ⟨top.await level ⟨left, op, token.offset⟩, outer, none⟩ := by
  cases level with
  | multiplicative =>
      have hnone : top.multiplicative? = none := hopens
      simp only [take, hold, factorOperator?_eq, hnone, settle_none, ok_bind, hop]
      rfl
  | additive =>
      obtain rfl := hopens
      have hmul : token.value.operatorAt? .multiplicative = none :=
        Token.operatorAt?_eq_none hop (by decide)
      simp only [take, hold, factorOperator?_eq, termOperator?_eq, Frame.empty, settle_none,
        ok_bind, hop, hmul]
      rfl

/-- **What waits is carried out when its right operand ends**, and before anything else happens. -/
lemma take_await {level : Level} {top : Frame} (hopens : top.Opens level.phrase)
    {token : Located Token} {tokens : List (Located Token)} {ending : Ending}
    (hends : Ends level.phrase ⟨token :: tokens, ending⟩) (limit : Nat) (pending : Pending)
    (outer : List Frame) (right : Int) :
    take limit ⟨top.await level pending, outer, some right⟩ token
      = settle (some pending) right >>= fun value =>
        take limit ⟨top, outer, some value⟩ token := by
  cases level with
  | multiplicative =>
      have hnone : top.multiplicative? = none := hopens
      simp only [take, hold, Frame.await, hnone, settle_none, ok_bind]
  | additive =>
      obtain rfl := hopens
      have hmul : token.value.operatorAt? .multiplicative = none := hends
      simp only [take, hold, factorOperator?_eq, Frame.await, Frame.empty, hmul, settle_none,
        ok_bind]

lemma finish_await {level : Level} {top : Frame} (hopens : top.Opens level.phrase) (offset : Nat)
    (pending : Pending) (outer : List Frame) (right : Int) :
    finish ⟨top.await level pending, outer, some right⟩ offset
      = settle (some pending) right >>= fun value => finish ⟨top, outer, some value⟩ offset := by
  cases level with
  | multiplicative =>
      have hnone : top.multiplicative? = none := hopens
      simp only [finish, Frame.await, hnone, settle_none, ok_bind]
  | additive =>
      obtain rfl := hopens
      simp only [finish, Frame.await, Frame.empty, settle_none, ok_bind]

/-! ## A whole stream -/

/-- What a configuration makes of a token stream. -/
def outcome (limit : Nat) (c : Configuration) (stream : TokenStream) : Except EvaluationError Int :=
  c.run limit stream.tokens stream.ending

lemma outcome_cons (limit : Nat) (c : Configuration) (token : Located Token)
    (tokens : List (Located Token)) (ending : Ending) :
    c.outcome limit ⟨token :: tokens, ending⟩
      = c.take limit token >>= fun c' => c'.outcome limit ⟨tokens, ending⟩ := rfl

lemma outcome_await {level : Level} {top : Frame} (hopens : top.Opens level.phrase)
    {stream : TokenStream} (hends : Ends level.phrase stream) (limit : Nat) (pending : Pending)
    (outer : List Frame) (right : Int) :
    outcome limit ⟨top.await level pending, outer, some right⟩ stream
      = settle (some pending) right >>= fun value =>
        outcome limit ⟨top, outer, some value⟩ stream := by
  rcases stream with ⟨_ | ⟨token, tokens⟩, ending⟩
  · cases ending with
    | failure error => cases level <;> exact hends.elim
    | endOfInput offset => exact finish_await hopens offset pending outer right
  · simp only [outcome_cons, take_await hopens hends, bind_assoc]

end Configuration
end Machine

/-! ## Trees -/

namespace Tree

open Machine

/-- The value of a tree, or the error of an evaluation at the operation that fails. -/
def compute {notion : Notion} (tree : Tree notion) : Except EvaluationError Int :=
  tree.evaluate.mapError (Located.map .runtime)

lemma compute_product (left : Tree .term) (op : Operator) (binds : op = .mul ∨ op = .div)
    (offset : Nat) (right : Tree .factor) :
    (product left op binds offset right).compute = left.compute >>= fun l =>
      right.compute >>= fun r => settle (some ⟨l, op, offset⟩) r := by
  simp only [compute, evaluate, settle_some]
  cases left.evaluate <;> cases right.evaluate <;> rfl

lemma compute_sum (left : Tree .expression) (op : Operator) (binds : op = .add ∨ op = .sub)
    (offset : Nat) (right : Tree .term) :
    (sum left op binds offset right).compute = left.compute >>= fun l =>
      right.compute >>= fun r => settle (some ⟨l, op, offset⟩) r := by
  simp only [compute, evaluate, settle_some]
  cases left.evaluate <;> cases right.evaluate <;> rfl

lemma compute_eq_ok_iff {notion : Notion} {tree : Tree notion} {value : Int} :
    tree.compute = .ok value ↔ tree.Yields value :=
  mapError_eq_ok_iff.trans evaluate_eq_ok_iff

lemma compute_eq_error_iff {notion : Notion} {tree : Tree notion} {error : EvaluationError} :
    tree.compute = .error error
      ↔ ∃ failure, FirstFailure tree.operations failure ∧ failure.map .runtime = error := by
  simp only [compute, mapError_eq_error_iff, evaluate_eq_error_iff]

end Tree

namespace Machine.Configuration

/-- A configuration that wants a phrase reads the tokens of a tree as the value of the tree. -/
def Reads (limit : Nat) (ending : Ending) {notion : Notion} (tree : Tree notion) : Prop :=
  ∀ (top : Frame) (outer : List Frame) (rest : List (Located Token)), top.Opens notion →
    outer.length + tree.depth ≤ limit → Ends notion ⟨rest, ending⟩ →
      outcome limit ⟨top, outer, none⟩ ⟨tree.tokens ++ rest, ending⟩
        = tree.compute >>= fun value => outcome limit ⟨top, outer, some value⟩ ⟨rest, ending⟩

/-- An operation is read as its operands are read. -/
lemma Reads.operation {limit : Nat} {ending : Ending} (level : Level) {left : Tree level.phrase}
    {right : Tree level.operand} (hleft : Reads limit ending left)
    (hright : Reads limit ending right) {op : Operator} (binds : level.Has op) (offset : Nat)
    {top : Frame} {outer : List Frame} {rest : List (Located Token)}
    (hopens : top.Opens level.phrase) (hdepth : outer.length + max left.depth right.depth ≤ limit)
    (hends : Ends level.phrase ⟨rest, ending⟩) :
    outcome limit ⟨top, outer, none⟩
        ⟨(left.tokens ++ ⟨.operator op, offset⟩ :: right.tokens) ++ rest, ending⟩
      = (left.compute >>= fun l => right.compute >>= fun r => settle (some ⟨l, op, offset⟩) r)
        >>= fun value => outcome limit ⟨top, outer, some value⟩ ⟨rest, ending⟩ := by
  have hop : (Located.mk (Token.operator op) offset).value.operatorAt? level = some op :=
    Token.operatorAt?_eq_some_iff_has.2 ⟨rfl, binds⟩
  have hreadsLeft := hleft top outer (⟨.operator op, offset⟩ :: (right.tokens ++ rest)) hopens
    (by omega) (Ends.of_operator hop)
  have hreadsRight := fun l => hright (top.await level ⟨l, op, offset⟩) outer rest
    (hopens.await _) (by omega) (hends.operand level)
  rw [List.append_assoc, List.cons_append, hreadsLeft]
  simp only [outcome_cons, take_operator hopens hop, ok_bind, hreadsRight,
    outcome_await hopens hends, bind_assoc]

/-- **The machine computes the tree that it reads**, as long as there is room for its groups. -/
theorem reads_tree (limit : Nat) (ending : Ending) {notion : Notion} (tree : Tree notion) :
    Reads limit ending tree := by
  induction tree with
  | number value offset => intro top outer rest _ _ _; rfl
  | group opening inner closing ih =>
      intro top outer rest _ hdepth _
      simp only [Tree.depth] at hdepth
      have hroom : ¬limit ≤ outer.length := by omega
      have hinner := ih .empty (top :: outer) (⟨.rightParen, closing⟩ :: rest) rfl
        (by simp only [List.length_cons]; omega) rfl
      rw [Tree.tokens, List.cons_append, List.append_assoc, List.singleton_append, outcome_cons,
        take_leftParen rfl hroom, ok_bind, hinner]
      simp only [outcome_cons, take_rightParen, ok_bind]
      rfl
  | factor only ih =>
      intro top outer rest _ hdepth _
      exact ih top outer rest trivial hdepth trivial
  | product left op binds offset right ihl ihr =>
      intro top outer rest hopens hdepth hends
      rw [Tree.compute_product]
      exact Reads.operation .multiplicative ihl ihr binds offset hopens hdepth hends
  | term only ih =>
      intro top outer rest hopens hdepth hends
      obtain rfl : top = .empty := hopens
      exact ih .empty outer rest rfl hdepth (hends.operand .additive)
  | sum left op binds offset right ihl ihr =>
      intro top outer rest hopens hdepth hends
      rw [Tree.compute_sum]
      exact Reads.operation .additive ihl ihr binds offset hopens hdepth hends

/-- Hence a stream that is a whole expression comes to what its tree computes. -/
theorem outcome_tree {limit : Nat} (tree : Tree .expression) (hdepth : tree.depth ≤ limit)
    (offset : Nat) :
    initial.outcome limit ⟨tree.tokens, .endOfInput offset⟩ = tree.compute := by
  have hreads := reads_tree limit (.endOfInput offset) tree .empty [] [] rfl
    (by simpa using hdepth) trivial
  rw [List.append_nil] at hreads
  calc initial.outcome limit ⟨tree.tokens, .endOfInput offset⟩
      = tree.compute >>= fun value =>
          outcome limit ⟨.empty, [], some value⟩ ⟨[], .endOfInput offset⟩ := hreads
    _ = tree.compute := bind_pure _

end Machine.Configuration

end Calculator
