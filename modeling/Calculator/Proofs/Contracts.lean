import Mathlib.Tactic.Common
import Calculator.Proofs.Descent

/-!
# What a rule has read when it returns

A rule that gives a value has consumed tokens that derive its notion, and the value is theirs; it
leaves as many groups open as there were, and stops where its notion cannot go on.

* **Reading**: `State.Reads` follows the tokens from one state to another, and `Parses` says that
  they are those of a tree with a certain value.
* **Loops**: `Round` is what the loop over a chain does once, and `Loop` lists the states through
  which it comes.  What has been read up to each of them is the chain so far, `Loop.parses`.
* **Rules**: `keeps` is the main statement, by induction on what is unread.
-/

namespace Calculator

/-- Only of numbers is there more than one token of a kind. -/
lemma Token.eq_of_kind {token token' : Token} (h : token.kind = token'.kind)
    (hnumber : token'.kind ≠ .number) : token = token' := by
  cases token <;> cases token' <;> simp_all [kind]

namespace Evaluation

/-! ## Reading -/

namespace State

/-- From one state to another these tokens are consumed, and the next one is the lookahead. -/
structure Reads (s : State) (tokens : List (Located Token)) (t : State) : Prop where
  consumed_eq : t.consumed.reverse = s.consumed.reverse ++ tokens
  ahead_eq : s.ahead = ⟨tokens ++ t.ahead.tokens, t.ahead.ending⟩
  pull_eq : t.ahead.pull = .ok (t.lookahead, t.upcoming)
  plain : t.upcoming.Plain

variable {s t u : State}

lemma Reads.trans {first second : List (Located Token)} (h : s.Reads first t)
    (h' : t.Reads second u) : s.Reads (first ++ second) u := by
  refine ⟨?_, ?_, h'.pull_eq, h'.plain⟩
  · rw [h'.consumed_eq, h.consumed_eq, List.append_assoc]
  · rw [h.ahead_eq, h'.ahead_eq, List.append_assoc]

/-- To count one group more or less is not to read. -/
lemma Reads.enter {tokens : List (Located Token)} (h : s.Reads tokens t) : s.Reads tokens t.enter :=
  ⟨h.consumed_eq, h.ahead_eq, h.pull_eq, h.plain⟩

lemma Reads.leave {tokens : List (Located Token)} (h : s.Reads tokens t) : s.Reads tokens t.leave :=
  ⟨h.consumed_eq, h.ahead_eq, h.pull_eq, h.plain⟩

/-- An advance pulls its lookahead off what was upcoming. -/
lemma pull_of_advance (h : s.advance = .ok t) :
    s.upcoming.pull = .ok (t.lookahead, t.upcoming) := by
  cases hpull : s.upcoming.pull with
  | error error =>
      rw [advance, hpull] at h
      cases h
  | ok pulled =>
      rw [advance, hpull] at h
      cases h
      rfl

/-- What is consumed is the lookahead, if it is of the kind expected. -/
lemma advance_of_consume {kind : Token.Kind} {hkind : kind ≠ .endOfInput} {t : s.Progress}
    (h : s.consume kind hkind = .ok t) :
    s.lookahead.value.kind = kind ∧ s.advance = .ok t.val := by
  unfold consume at h
  split at h
  · rename_i hlookahead
    split at h <;> cases h
    exact ⟨hlookahead, ‹_›⟩
  · cases h

/-- To consume a token is to read it. -/
lemma reads_of_consume (hplain : s.upcoming.Plain) {kind : Token.Kind}
    {hkind : kind ≠ .endOfInput} {t : s.Progress} (h : s.consume kind hkind = .ok t) :
    s.Reads [s.lookahead] t.val ∧ t.val.depth = s.depth := by
  obtain ⟨hlookahead, hadvance⟩ := advance_of_consume h
  obtain ⟨hahead, hplain', hdepth, hconsumed⟩ := ahead_of_advance hplain hadvance
  have hs : s.lookahead.value ≠ .endOfInput := by
    intro hs
    exact hkind (by rw [← hlookahead, hs]; rfl)
  refine ⟨⟨?_, ?_, ?_, hplain'⟩, hdepth⟩
  · rw [hconsumed, pulled, List.reverse_cons]
  · rw [hahead, ahead, TokenStream.push_of_ne hs]
    rfl
  · rw [hahead]
    exact pull_of_advance hadvance

/-- A result is computed if the operands combine to it. -/
lemma combines_of_compute {op : Operator} {left right value : Int} {offset : Nat}
    (h : s.compute op left right offset = .ok value) : Tree.Combines op left right value := by
  rw [compute] at h
  split at h <;> cases h
  exact Operator.apply_eq_ok_iff.1 ‹_›

end State

/-- From one state to another a tree with this value has been read, and as many groups are open. -/
structure Parses (notion : Notion) (s : State) (value : Int) (t : State) : Prop where
  exists_tree : ∃ tree : Tree notion, s.Reads tree.tokens t ∧ tree.Yields value
  depth_eq : t.depth = s.depth

namespace Parses

variable {s t u w : State} {level : Level}

lemma single {value : Int} (h : Parses level.operand s value t) :
    Parses level.phrase s value t := by
  obtain ⟨tree, hreads, hyields⟩ := h.exists_tree
  refine ⟨⟨.single tree, ?_, Tree.yields_single.2 hyields⟩, h.depth_eq⟩
  rw [Tree.tokens_single]
  exact hreads

/-- A chain with one more link: an operator that comes next, and an operand after it. -/
lemma extend {left right value : Int} {op : Operator} (hleft : Parses level.phrase s left t)
    (hop : t.lookahead.value.operatorAt? level = some op)
    (hread : t.Reads [t.lookahead] u ∧ u.depth = t.depth)
    (hright : Parses level.operand u right w) (hvalue : Tree.Combines op left right value) :
    Parses level.phrase s value w := by
  obtain ⟨tree, hreads, hyields⟩ := hleft.exists_tree
  obtain ⟨tree', hreads', hyields'⟩ := hright.exists_tree
  obtain ⟨htoken, binds⟩ := Token.operatorAt?_eq_some_iff_has.1 hop
  have hlink : [t.lookahead] ++ tree'.tokens
      = Link.tokens ⟨op, binds, t.lookahead.offset, tree'⟩ := by
    rw [Link.tokens, ← htoken]
    rfl
  refine ⟨⟨tree.extend ⟨op, binds, t.lookahead.offset, tree'⟩, ?_, ?_⟩, ?_⟩
  · rw [Tree.tokens_extend, ← hlink]
    exact hreads.trans (hread.1.trans hreads')
  · exact Tree.yields_extend.2 ⟨left, right, hyields, hyields', hvalue⟩
  · rw [hright.depth_eq, hread.2, hleft.depth_eq]

end Parses

/-! ## Loops -/

/-- The rule for the notion, entered in this state, keeps to its part: what it gives has been
read. -/
def Keeps (limit : Nat) (notion : Notion) (s : State) : Prop :=
  s.upcoming.Plain → ∀ value t, rule limit notion s = .ok (value, t) →
    Parses notion s value t.val ∧ t.val.Stops notion

/-- **One round of a loop**, from one value to the next: there is an operator, an operand is read
after it, and the operation is carried out. -/
inductive Round (limit : Nat) (level : Level) (left : Int) (s : State) (value : Int) :
    State → Prop
  | intro {right : Int} {op : Operator} {t : s.Progress} {u : t.val.Progress}
      (operator : s.lookahead.value.operatorAt? level = some op)
      (consumes : s.consume (.operator op) nofun = .ok t)
      (operand : rule limit level.operand t.val = .ok (right, u))
      (computes : u.val.compute op left right s.lookahead.offset = .ok value) :
      Round limit level left s value u.val

/-- **The states through which a loop comes**, with the value of the chain so far. It starts after
the first operand and goes on by rounds. -/
inductive Loop (limit : Nat) (level : Level) (origin : State) : Int → State → Prop
  | first {left : Int} {s : origin.Progress}
      (operand : rule limit level.operand origin = .ok (left, s)) :
      Loop limit level origin left s.val
  | again {left value : Int} {s t : State} (loop : Loop limit level origin left s)
      (round : Round limit level left s value t) : Loop limit level origin value t

section

variable {limit : Nat} {level : Level} {origin : State}

/-- **After a round less is unread.** -/
lemma Round.unread_lt {left value : Int} {s t : State} (h : Round limit level left s value t) :
    t.unread < s.unread := by
  obtain @⟨_, _, t, u⟩ := h
  exact Nat.lt_trans u.property t.property

/-- In a loop less is unread than where the chain began. -/
lemma Loop.unread_lt {left : Int} {s : State} (h : Loop limit level origin left s) :
    s.unread < origin.unread := by
  induction h with
  | @first _ s operand => exact s.property
  | again loop round ih => exact Nat.lt_trans round.unread_lt ih

/-- **Up to each state of a loop a chain has been read**, if the operands are, here and where less
is unread. -/
lemma Loop.parses (hplain : origin.upcoming.Plain) (horigin : Keeps limit level.operand origin)
    (ih : ∀ u : State, u.unread < origin.unread → Keeps limit level.operand u) {left : Int}
    {s : State} (h : Loop limit level origin left s) :
    Parses level.phrase origin left s ∧ s.Stops level.operand := by
  induction h with
  | first operand =>
      obtain ⟨hparses, hstops⟩ := horigin hplain _ _ operand
      exact ⟨hparses.single, hstops⟩
  | again loop round ihloop =>
      obtain ⟨hparses, -⟩ := ihloop
      obtain ⟨_, hreads, -⟩ := hparses.exists_tree
      obtain @⟨right, op, t, u, operator, consumes, operand, computes⟩ := round
      have hread := State.reads_of_consume hreads.plain consumes
      obtain ⟨hoperand, hstops⟩ :=
        ih t.val (Nat.lt_trans t.property loop.unread_lt) hread.1.plain _ _ operand
      exact ⟨hparses.extend operator hread hoperand (State.combines_of_compute computes), hstops⟩

/-- **What the loop gives is where it comes to its end**, with no operator left. -/
lemma Loop.of_chain {left value : Int} {s t : origin.Progress}
    (hloop : Loop limit level origin left s.val)
    (h : chain level origin (fun u _ => rule limit level.operand u) left s = .ok (value, t)) :
    Loop limit level origin value t.val ∧ t.val.lookahead.value.operatorAt? level = none := by
  fun_induction chain level origin _ left s with
  | case1 left s hnone =>
      cases h
      exact ⟨hloop, hnone⟩
  | case2 left s op hop ih =>
      obtain ⟨t', hconsume, h⟩ := bind_eq_ok_iff.1 h
      obtain ⟨⟨right, u⟩, hright, h⟩ := bind_eq_ok_iff.1 h
      obtain ⟨value', hcompute, h⟩ := bind_eq_ok_iff.1 h
      exact ih t' u value' (hloop.again ⟨hop, hconsume, hright, hcompute⟩) h

end

/-! ## Rules -/

section

variable {limit : Nat} {s : State}

/-- What a group gives is what the expression in it gives, one group deeper. -/
lemma group_eq_ok {value : Int} {w : s.Progress} (h : group limit s = .ok (value, w)) :
    ∃ t : s.Progress, s.consume .leftParen nofun = .ok t
      ∧ ∃ u : t.val.enter.Progress, expression limit t.val.enter = .ok (value, u)
      ∧ ∃ v : u.val.leave.Progress, u.val.leave.consume .rightParen nofun = .ok v
      ∧ w.val = v.val := by
  rw [group] at h
  split at h
  · cases h
  · obtain ⟨t, hopening, h⟩ := bind_eq_ok_iff.1 h
    obtain ⟨⟨value', u⟩, hinner, h⟩ := bind_eq_ok_iff.1 h
    dsimp only at h
    split at h
    · obtain ⟨v, hclosing, h⟩ := bind_eq_ok_iff.1 h
      cases h
      exact ⟨t, hopening, u, hinner, v, hclosing, rfl⟩
    · cases h

/-- **A group is read**, from the opening parenthesis to the closing one, if the expressions with
less unread are. -/
lemma reads_of_group (ih : ∀ u : State, u.unread < s.unread → Keeps limit .expression u)
    (hplain : s.upcoming.Plain) {value : Int} {w : s.Progress}
    (h : group limit s = .ok (value, w)) :
    (∃ opening inner closing, s.Reads (Tree.group opening inner closing).tokens w.val
        ∧ inner.Yields value) ∧ w.val.depth = s.depth := by
  obtain ⟨t, hopening, u, hinner, v, hclosing, hw⟩ := group_eq_ok h
  obtain ⟨hopen, htdepth⟩ := State.reads_of_consume hplain hopening
  obtain ⟨hparses, -⟩ := ih t.val.enter t.property hopen.plain _ _ hinner
  obtain ⟨tree, hreads, hyields⟩ := hparses.exists_tree
  obtain ⟨hclose, hvdepth⟩ := State.reads_of_consume (s := u.val.leave) hreads.plain hclosing
  have hleft : s.lookahead.value = .leftParen :=
    Token.eq_of_kind (State.advance_of_consume hopening).1 nofun
  have hright : u.val.lookahead.value = .rightParen :=
    Token.eq_of_kind (State.advance_of_consume hclosing).1 nofun
  refine ⟨⟨s.lookahead.offset, tree, u.val.lookahead.offset, ?_, hyields⟩, ?_⟩
  · rw [Tree.tokens, ← hleft, ← hright, hw]
    exact hopen.enter.trans (hreads.leave.trans hclose)
  · calc w.val.depth = u.val.depth - 1 := by rw [hw, hvdepth]; rfl
      _ = t.val.enter.depth - 1 := by rw [hparses.depth_eq]
      _ = s.depth := htdepth

/-- **A factor is read**, a number or a group. -/
lemma keeps_factor (ih : ∀ u : State, u.unread < s.unread → Keeps limit .expression u) :
    Keeps limit .factor s := by
  intro hplain value w h
  refine ⟨?_, trivial⟩
  rw [rule, factor] at h
  split at h
  · rename_i htoken
    obtain ⟨t, hconsume, h⟩ := bind_eq_ok_iff.1 h
    cases h
    obtain ⟨hread, hdepth⟩ := State.reads_of_consume hplain hconsume
    have hnumber : s.lookahead = ⟨.number value, s.lookahead.offset⟩ := by rw [← htoken]
    refine ⟨⟨.number value s.lookahead.offset, ?_, rfl⟩, hdepth⟩
    rw [Tree.tokens, ← hnumber]
    exact hread
  · obtain ⟨⟨opening, inner, closing, hreads, hyields⟩, hdepth⟩ := reads_of_group ih hplain h
    exact ⟨⟨.group opening inner closing, hreads, hyields⟩, hdepth⟩
  · cases h

/-- **A chain is read** if its operands are, here and where less is unread. -/
lemma keeps_phrase (level : Level) (h : Keeps limit level.operand s)
    (ih : ∀ u : State, u.unread < s.unread → Keeps limit level.operand u) :
    Keeps limit level.phrase s := by
  intro hplain value w hrule
  rw [rule_phrase] at hrule
  obtain ⟨⟨left, t⟩, hoperand, hchain⟩ := bind_eq_ok_iff.1 hrule
  obtain ⟨hloop, hnone⟩ := Loop.of_chain (.first hoperand) hchain
  obtain ⟨hparses, hstops⟩ := hloop.parses hplain h ih
  exact ⟨hparses, hstops.phrase hnone⟩

/-- **Every rule keeps to its part.** -/
theorem keeps (limit : Nat) (notion : Notion) (s : State) : Keeps limit notion s := by
  induction hn : s.unread using Nat.strongRecOn generalizing notion s with
  | ind n ih =>
      subst hn
      -- a chain starts with an operand at the same state, so the notions are taken innermost first
      have hfactor : Keeps limit .factor s :=
        keeps_factor fun u hu => ih u.unread hu .expression u rfl
      have hterm : Keeps limit .term s :=
        keeps_phrase .multiplicative hfactor fun u hu => ih u.unread hu .factor u rfl
      cases notion with
      | factor => exact hfactor
      | term => exact hterm
      | expression =>
          exact keeps_phrase .additive hterm fun u hu => ih u.unread hu .term u rfl

end

end Evaluation

end Calculator
