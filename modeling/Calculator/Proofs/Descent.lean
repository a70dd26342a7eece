import Mathlib.Tactic.Common
import Calculator.Proofs.Reading

/-!
# The rules and the machine

The rules of evaluation keep what is still to be done in their own recursion; the machine keeps it
on its stack of frames.  This file shows that the two come to the same on every stream, whatever is
wrong with it.

The machine is put before the state of an evaluation: it has still to take what is `State.ahead`,
the lookahead first.  `Meets` says that from there it comes to a certain outcome, which is a result
together with the tokens pulled for it.

* **`Leads`** is how a computation of the rules is judged against that outcome: if it fails, its
  failure is the outcome; if it succeeds, the machine has kept up with it.
* **`Follows`** says so of the rule for a notion: the machine keeps up by holding the value of the
  rule in the very frames in which it wanted one.  `follows` is the main statement, by induction on
  what is unread.
* **`outcome_eq_course`** draws the conclusion for a whole stream, and `result_outcome` for its
  result alone.
-/

namespace Calculator.Evaluation

open Machine

/-! ## What a state has ahead -/

namespace State

/-- All that is not yet consumed, the lookahead first. -/
def ahead (s : State) : TokenStream :=
  s.upcoming.push s.lookahead

/-- An evaluation starts with the whole stream ahead. -/
lemma ahead_of_start {stream : TokenStream} {s : State} (hplain : stream.Plain)
    (h : start stream = .ok s) : s.ahead = stream ∧ s.upcoming.Plain ∧ s.depth = 0
      ∧ s.consumed = [] := by
  cases hpull : stream.pull with
  | error error =>
      rw [start, hpull] at h
      cases h
  | ok pulled =>
      rw [start, hpull] at h
      cases h
      obtain ⟨hpush, hplain'⟩ := TokenStream.push_of_pull hplain hpull
      exact ⟨hpush, hplain', rfl, rfl⟩

/-- It does not start at a lexeme that is no token. -/
lemma eq_of_start {stream : TokenStream} {error : LexicalError} (h : start stream = .error error) :
    stream = ⟨[], .failure error⟩ := by
  cases hpull : stream.pull with
  | error error' =>
      rw [start, hpull] at h
      cases h
      exact TokenStream.eq_of_pull hpull
  | ok pulled =>
      rw [start, hpull] at h
      cases h

/-- After an advance, what was upcoming is ahead, and the lookahead is consumed. -/
lemma ahead_of_advance {s t : State} (hplain : s.upcoming.Plain) (h : s.advance = .ok t) :
    t.ahead = s.upcoming ∧ t.upcoming.Plain ∧ t.depth = s.depth ∧ t.consumed = s.pulled := by
  cases hpull : s.upcoming.pull with
  | error error =>
      rw [advance, hpull] at h
      cases h
  | ok pulled =>
      rw [advance, hpull] at h
      cases h
      obtain ⟨hpush, hplain'⟩ := TokenStream.push_of_pull hplain hpull
      exact ⟨hpush, hplain', rfl, rfl⟩

/-- An advance fails only at a lexeme that is no token. -/
lemma upcoming_of_advance {s : State} {abort : Abort} (h : s.advance = .error abort) :
    ∃ error, s.upcoming = ⟨[], .failure error⟩ ∧ abort = s.abort (error.map .lexical) := by
  cases hpull : s.upcoming.pull with
  | error error =>
      rw [advance, hpull] at h
      cases h
      exact ⟨error, TokenStream.eq_of_pull hpull, rfl⟩
  | ok pulled =>
      rw [advance, hpull] at h
      cases h

/-- What the machine, in a configuration, makes of what is ahead. -/
def course (limit : Nat) (c : Configuration) (s : State) : Outcome :=
  c.course limit s.consumed s.ahead.tokens s.ahead.ending

/-- The lookahead is no operator by which a phrase of the notion goes on. -/
def Stops (s : State) : Notion → Prop
  | .factor => True
  | .term => s.lookahead.value.operatorAt? .multiplicative = none
  | .expression =>
    s.lookahead.value.operatorAt? .multiplicative = none
      ∧ s.lookahead.value.operatorAt? .additive = none

/-- Where an operand stops, what waits for it is carried out. -/
lemma Stops.ends {s : State} {level : Level} (h : s.Stops level.operand) :
    Ends level.phrase s.ahead := by
  rw [ahead, TokenStream.push]
  split
  · cases level <;> trivial
  · cases level with
    | multiplicative => trivial
    | additive => exact h

lemma Stops.phrase {s : State} {level : Level} (h : s.Stops level.operand)
    (hnone : s.lookahead.value.operatorAt? level = none) : s.Stops level.phrase := by
  cases level with
  | multiplicative => exact hnone
  | additive => exact ⟨h, hnone⟩

end State

/-! ## Judging a computation by the outcome -/

/-- The outcome of an evaluation that fails so. -/
def Abort.outcome (abort : Abort) : Outcome :=
  ⟨.error abort.error, abort.pulled.reverse⟩

/-- A computation fails and its failure is the outcome, or what it gives is as described. -/
def Leads {α : Type} (final : Outcome) (r : Except Abort α) (post : α → Prop) : Prop :=
  match r with
  | .ok x => post x
  | .error abort => final = abort.outcome

lemma Leads.bind {α β : Type} {final : Outcome} {r : Except Abort α}
    {f : α → Except Abort β} {post : β → Prop}
    (h : Leads final r fun x => Leads final (f x) post) : Leads final (r >>= f) post := by
  cases r <;> exact h

lemma Leads.imp {α : Type} {final : Outcome} {r : Except Abort α} {post post' : α → Prop}
    (h : Leads final r post) (himp : ∀ x, post x → post' x) : Leads final r post' := by
  cases r with
  | ok x => exact himp x h
  | error abort => exact h

/-- The machine, in this configuration, comes from what is ahead of a state to the outcome. -/
structure Meets (limit : Nat) (final : Outcome) (c : Configuration) (s : State) : Prop where
  course_eq : s.course limit c = final
  plain : s.upcoming.Plain

variable {limit : Nat} {final : Outcome}

/-- If the machine takes the lookahead, it meets the state after it, unless nothing can be
pulled. -/
lemma Meets.consume {c c' : Configuration} {s : State} (h : Meets limit final c s)
    (kind : Token.Kind) (hkind : s.lookahead.value.kind = kind) (hne : kind ≠ .endOfInput)
    (htake : c.take limit s.lookahead = .ok c') :
    Leads final (s.consume kind hne) fun t =>
      Meets limit final c' t.val ∧ t.val.depth = s.depth := by
  rcases h with ⟨hcourse, hplain⟩
  have hs : s.lookahead.value ≠ .endOfInput := by
    rintro hs
    exact hne (by rw [← hkind, hs]; rfl)
  rw [State.course, State.ahead, Configuration.course_push_of_ok hs htake] at hcourse
  cases hadvance : s.advance with
  | error abort =>
      obtain ⟨error, hupcoming, rfl⟩ := State.upcoming_of_advance hadvance
      rw [hupcoming] at hcourse
      rw [State.consume_of_error hkind hadvance]
      exact hcourse.symm
  | ok t =>
      obtain ⟨hahead, hplain', hdepth, hconsumed⟩ := State.ahead_of_advance hplain hadvance
      obtain ⟨hlt, hconsume⟩ := @State.consume_of_ok s t kind hne hkind hadvance
      rw [hconsume]
      exact ⟨⟨by rw [State.course, hahead, hconsumed]; exact hcourse, hplain'⟩, hdepth⟩

/-- If the machine refuses the lookahead, its error is the outcome. -/
lemma Meets.refuse {c : Configuration} {s : State} (h : Meets limit final c s)
    (hs : s.lookahead.value ≠ .endOfInput) {error : EvaluationError}
    (htake : c.take limit s.lookahead = .error error) : final = (s.abort error).outcome := by
  rw [← h.course_eq]
  exact Configuration.course_push_of_error hs htake s.consumed s.upcoming

/-- At the end of the input the outcome is what the machine finishes with. -/
lemma Meets.finish {c : Configuration} {s : State} (h : Meets limit final c s)
    (hs : s.lookahead.value = .endOfInput) :
    final = ⟨c.finish s.lookahead.offset, s.pulled.reverse⟩ := by
  rw [← h.course_eq]
  exact Configuration.course_push_of_endOfInput hs s.consumed s.upcoming

/-- An operation that waits is computed where its right operand ends. -/
lemma Meets.compute {level : Level} {top : Frame} (hopens : top.Opens level.phrase)
    {outer : List Frame} {s : State} (hstops : s.Stops level.operand) {op : Operator}
    {left right : Int} {offset : Nat}
    (h : Meets limit final ⟨top.await level ⟨left, op, offset⟩, outer, some right⟩ s) :
    Leads final (s.compute op left right offset) fun value =>
      Meets limit final ⟨top, outer, some value⟩ s := by
  rcases h with ⟨hcourse, hplain⟩
  rw [State.course, State.ahead, Configuration.course_await hopens hstops.ends] at hcourse
  cases happly : op.apply left right offset with
  | error error =>
      simp only [settle_some, happly] at hcourse
      simp only [State.compute, happly]
      exact hcourse.symm
  | ok value =>
      simp only [settle_some, happly] at hcourse
      simp only [State.compute, happly]
      exact ⟨hcourse, hplain⟩

/-- After a rule for the notion the machine holds its value, in the frames in which the rule
began. -/
def Holds (limit : Nat) (final : Outcome) (notion : Notion) (top : Frame)
    (outer : List Frame) {s : State} (x : Int × s.Progress) : Prop :=
  Meets limit final ⟨top, outer, some x.1⟩ x.2.val ∧ x.2.val.depth = outer.length
    ∧ x.2.val.Stops notion

/-- The rule for a notion. -/
def rule (limit : Nat) : Notion → (s : State) → Result s
  | .expression => expression limit
  | .term => term limit
  | .factor => factor limit

/-- The machine follows the rule for the notion from a state on. -/
def Follows (limit : Nat) (final : Outcome) (notion : Notion) (s : State) :
    Prop :=
  ∀ top outer, top.Opens notion → Meets limit final ⟨top, outer, none⟩ s →
    s.depth = outer.length →
      Leads final (rule limit notion s) (Holds limit final notion top outer)

/-- **A loop over a chain**, in the middle of which the machine holds the value so far. -/
lemma chain_follows {level : Level} {origin : State}
    {operand : (u : State) → u.unread < origin.unread → Result u} {top : Frame}
    {outer : List Frame} (hopens : top.Opens level.phrase)
    (hoperand : ∀ (u : State) (hu : u.unread < origin.unread) (frame : Frame),
      frame.Opens level.operand → Meets limit final ⟨frame, outer, none⟩ u →
        u.depth = outer.length →
          Leads final (operand u hu) (Holds limit final level.operand frame outer))
    {left : Int} {s : origin.Progress} (h : Meets limit final ⟨top, outer, some left⟩ s.val)
    (hdepth : s.val.depth = outer.length) (hstops : s.val.Stops level.operand) :
    Leads final (chain level origin operand left s)
      (Holds limit final level.phrase top outer) := by
  fun_induction chain level origin operand left s with
  | case1 left s hnone => exact ⟨h, hdepth, hstops.phrase hnone⟩
  | case2 left s op hop ih =>
      obtain ⟨htoken, -⟩ := Token.operatorAt?_eq_some_iff.1 hop
      have hkind : s.val.lookahead.value.kind = .operator op := by rw [htoken]; rfl
      have htake := Configuration.take_operator hopens hop limit outer left
      refine ((h.consume (.operator op) hkind (by simp) htake).imp ?_).bind
      rintro t ⟨ht, htdepth⟩
      refine ((hoperand t.val _ _ (hopens.await _) ht (htdepth.trans hdepth)).imp ?_).bind
      rintro ⟨right, u⟩ ⟨hu, hudepth, hustops⟩
      refine ((hu.compute hopens hustops).imp ?_).bind
      intro value hvalue
      exact ih t u value hvalue hudepth hustops

/-- Where an expression ends and it is not the end of the group, the machine refuses too. -/
lemma Meets.refuse_closing {below : Frame} {outer : List Frame} {value : Int} {s : State}
    (h : Meets limit final ⟨.empty, below :: outer, some value⟩ s)
    (hstops : s.Stops .expression) (hclosing : s.lookahead.value ≠ .rightParen) :
    final = (s.refuse (.expectedClosingParen s.lookahead.value.kind)).outcome := by
  rcases hstops with ⟨hmul, hadd⟩
  by_cases hs : s.lookahead.value = .endOfInput
  · rw [h.finish hs, hs]
    rfl
  · refine h.refuse hs ?_
    simp only [Configuration.take, Configuration.hold, factorOperator?_eq, termOperator?_eq,
      Frame.empty, settle_none, ok_bind, hmul, hadd, if_neg hclosing]

/-- Where an operand has to come and none does, the machine refuses too. -/
lemma Meets.refuse_operand {top : Frame} {outer : List Frame} {s : State}
    (h : Meets limit final ⟨top, outer, none⟩ s)
    (hnumber : ∀ value, s.lookahead.value ≠ .number value)
    (hparen : s.lookahead.value ≠ .leftParen) :
    final = (s.refuse (.expectedOperand s.lookahead.value.kind)).outcome := by
  by_cases hs : s.lookahead.value = .endOfInput
  · rw [h.finish hs, hs]
    rfl
  · refine h.refuse hs ?_
    simp only [Configuration.take, Configuration.want]

/-- **A group is followed** if the expressions with less ahead are. -/
lemma group_follows {s : State} (ih : ∀ u : State, u.unread < s.unread →
      Follows limit final .expression u) {top : Frame} {outer : List Frame}
    (h : Meets limit final ⟨top, outer, none⟩ s) (hdepth : s.depth = outer.length)
    (htoken : s.lookahead.value = .leftParen) :
    Leads final (group limit s) (Holds limit final .factor top outer) := by
  have hs : s.lookahead.value ≠ .endOfInput := by simp [htoken]
  rw [group, hdepth]
  split
  · rename_i hfull
    refine h.refuse hs ?_
    simp only [Configuration.take, Configuration.want, htoken, if_pos hfull]
  · rename_i hroom
    have hkind : s.lookahead.value.kind = .leftParen := by rw [htoken]; rfl
    have htake := Configuration.take_leftParen htoken hroom top
    refine ((h.consume .leftParen hkind (by simp) htake).imp ?_).bind
    rintro t ⟨ht, htdepth⟩
    have hdeeper : t.val.enter.depth = (top :: outer).length :=
      congrArg (· + 1) (htdepth.trans hdepth)
    have hinner := ih t.val.enter t.property .empty (top :: outer) rfl
      ⟨ht.course_eq, ht.plain⟩ hdeeper
    refine (hinner.imp ?_).bind
    rintro ⟨value, u⟩ ⟨hu, hudepth, hustops⟩
    have hleave : Meets limit final ⟨.empty, top :: outer, some value⟩ u.val.leave :=
      ⟨hu.course_eq, hu.plain⟩
    have hback : u.val.leave.depth = outer.length := congrArg (· - 1) hudepth
    dsimp only
    split
    · rename_i hclosing
      have hkind' : u.val.leave.lookahead.value.kind = .rightParen := congrArg Token.kind hclosing
      have htake' := Configuration.take_rightParen hclosing limit top outer value
      refine ((hleave.consume .rightParen hkind' (by simp) htake').imp ?_).bind
      rintro v ⟨hv, hvdepth⟩
      exact ⟨hv, hvdepth.trans hback, trivial⟩
    · rename_i hclosing
      exact hu.refuse_closing hustops hclosing

/-- **A factor is followed** if the expressions with less ahead are. -/
lemma factor_follows {s : State} (ih : ∀ u : State, u.unread < s.unread →
    Follows limit final .expression u) : Follows limit final .factor s := by
  intro top outer _ h hdepth
  rw [rule, factor]
  split
  · rename_i value htoken
    have hkind : s.lookahead.value.kind = .number := by rw [htoken]; rfl
    have htake : Configuration.take limit ⟨top, outer, none⟩ s.lookahead
        = .ok ⟨top, outer, some value⟩ := by
      simp only [Configuration.take, Configuration.want, htoken]
    refine ((h.consume .number hkind (by simp) htake).imp ?_).bind
    rintro t ⟨ht, htdepth⟩
    exact ⟨ht, htdepth.trans hdepth, trivial⟩
  · rename_i htoken
    exact group_follows ih h hdepth htoken
  · rename_i hnumber hparen
    exact h.refuse_operand hnumber hparen

/-- Both kinds of chain begin with an operand. -/
lemma rule_phrase (limit : Nat) (level : Level) (s : State) :
    rule limit level.phrase s = rule limit level.operand s >>= fun x =>
      chain level s (fun u _ => rule limit level.operand u) x.1 x.2 := by
  cases level with
  | multiplicative =>
      simp only [Level.phrase, Level.operand, rule, term]
  | additive =>
      simp only [Level.phrase, Level.operand, rule, expression]

/-- **A chain is followed** if its operands are, here and where less is ahead. -/
lemma phrase_follows (level : Level) {s : State} (h : Follows limit final level.operand s)
    (ih : ∀ u : State, u.unread < s.unread → Follows limit final level.operand u) :
    Follows limit final level.phrase s := by
  intro top outer hopens hmeets hdepth
  rw [rule_phrase]
  refine ((h top outer hopens.operand hmeets hdepth).imp ?_).bind
  rintro ⟨left, t⟩ ⟨ht, htdepth, htstops⟩
  exact chain_follows hopens (fun u hu frame => ih u hu frame outer) ht htdepth htstops

/-- **The machine follows every rule.** -/
theorem follows (limit : Nat) (final : Outcome) (notion : Notion) (s : State) :
    Follows limit final notion s := by
  induction hn : s.unread using Nat.strongRecOn generalizing notion s with
  | ind n ih =>
      subst hn
      -- a chain starts with an operand at the same state, so the notions are taken innermost first
      have hfactor : Follows limit final .factor s :=
        factor_follows fun u hu => ih u.unread hu .expression u rfl
      have hterm : Follows limit final .term s :=
        phrase_follows .multiplicative hfactor fun u hu => ih u.unread hu .factor u rfl
      cases notion with
      | factor => exact hfactor
      | term => exact hterm
      | expression =>
          exact phrase_follows .additive hterm fun u hu => ih u.unread hu .term u rfl

/-- The whole evaluation. -/
lemma whole_leads {s : State} (h : Meets limit final .initial s) (hdepth : s.depth = 0) :
    Leads final (whole limit s) fun x => final = ⟨.ok x.1, x.2.pulled.reverse⟩ := by
  refine ((follows limit final .expression s .empty [] rfl h hdepth).imp ?_).bind
  rintro ⟨value, t⟩ ⟨ht, -, hmul, hadd⟩
  dsimp only
  split
  · rename_i hend
    exact ht.finish hend
  · rename_i hend
    refine ht.refuse hend ?_
    simp only [Configuration.take, Configuration.hold, factorOperator?_eq, termOperator?_eq,
      Frame.empty, settle_none, ok_bind, hmul, hadd]

/-- **The evaluation of a stream pulls the tokens that the machine pulls and comes to what the
machine comes to.** -/
theorem outcome_eq_course {stream : TokenStream} (hplain : stream.Plain) (limit : Nat) :
    outcome limit stream
      = Configuration.initial.course limit [] stream.tokens stream.ending := by
  rw [outcome]
  cases hstart : State.start stream with
  | error error =>
      rw [State.eq_of_start hstart]
      rfl
  | ok s =>
      obtain ⟨hahead, hplain', hdepth, hconsumed⟩ := State.ahead_of_start hplain hstart
      have hmeets : Meets limit
          (Configuration.initial.course limit [] stream.tokens stream.ending) .initial s :=
        ⟨by rw [State.course, hahead, hconsumed], hplain'⟩
      have hleads := whole_leads hmeets hdepth
      dsimp only [State.outcome]
      cases hwhole : whole limit s with
      | error abort =>
          rw [hwhole] at hleads
          exact hleads.symm
      | ok x =>
          rw [hwhole] at hleads
          exact hleads.symm

/-- Hence its result is what the machine makes of the stream. -/
theorem result_outcome {stream : TokenStream} (hplain : stream.Plain) (limit : Nat) :
    (outcome limit stream).result = Machine.evaluate limit stream := by
  rw [outcome_eq_course hplain, Configuration.result_course]
  rfl

end Calculator.Evaluation

namespace Calculator

/-- The evaluation of an input comes to the outcome of the machine on its tokens. -/
lemma evaluateWithin_eq_outcome (maxDepth : Nat) (input : String) :
    evaluateWithin maxDepth input
      = Machine.Configuration.initial.outcome maxDepth (.ofString input) :=
  Evaluation.result_outcome (TokenStream.plain_ofString input) maxDepth

/-- **Evaluation and the machine give the same result on every input**, the value or the error with
all that it says.  What the machine is given are the items that a reader hands out; if none of them
is an error, the end of the input comes after them, at the length of the input. -/
theorem evaluateWithin_eq_machine (maxDepth : Nat) (input : String) :
    evaluateWithin maxDepth input = Machine.evaluate maxDepth (.ofString input)
      ∧ (Reader.ofString input).drain.1 = (TokenStream.ofString input).items
      ∧ ((TokenStream.ofString input).ending = .endOfInput input.utf8ByteSize
          ∧ tokenize input = .ok (TokenStream.ofString input).tokens
        ∨ ∃ error, (TokenStream.ofString input).ending = .failure error
          ∧ tokenize input = .error error) := by
  refine ⟨evaluateWithin_eq_outcome maxDepth input, Reader.items_drain input, ?_⟩
  rw [tokenize_eq, TokenStream.collect]
  cases hending : (TokenStream.ofString input).ending with
  | endOfInput offset =>
      obtain rfl := TokenStream.offset_ofString hending
      exact .inl ⟨rfl, rfl⟩
  | failure error => exact .inr ⟨error, rfl, rfl⟩

end Calculator
