import Mathlib.Tactic.Common
import Calculator.Proofs.Descent

/-!
# The limit on nesting

The limit decides nothing but where an evaluation is cut off.

**Below the limit.**  A higher limit lets the machine take the same tokens to the same
configurations, so a result that does not complain of the limit stays as it is:
`Configuration.outcome_of_limit`.

**At the limit.**  The number of groups that are open is the `balance` of the tokens read, which is
a matter of counting parentheses.  Hence the place where the limit is reached can be told from the
tokens alone: it is the first opening parenthesis before which the balance equals the limit.

`evaluateWithin_limit` says both of an input.
-/

namespace Calculator

/-- How many more groups the tokens open than they close. -/
def balance (tokens : List (Located Token)) : Int :=
  (tokens.countP fun token => token.value = .leftParen : Nat)
    - (tokens.countP fun token => token.value = .rightParen : Nat)

@[simp]
lemma balance_nil : balance [] = 0 := rfl

lemma balance_append (before after : List (Located Token)) :
    balance (before ++ after) = balance before + balance after := by
  simp only [balance, List.countP_append]
  omega

lemma balance_cons (token : Located Token) (tokens : List (Located Token)) :
    balance (token :: tokens) = balance [token] + balance tokens :=
  balance_append [token] tokens

namespace Machine.Configuration

variable {limit limit' : Nat}

/-! ## A higher limit -/

/-- The limit matters only to a parenthesis that opens one group too many. -/
lemma take_of_limit (hlimit : limit ≤ limit') (c : Configuration) (token : Located Token) :
    c.take limit' token = c.take limit token
      ∨ c.take limit token = .error ⟨.runtime (.nestingTooDeep limit), token.offset⟩ := by
  rcases c with ⟨top, outer, _ | operand⟩
  · simp only [take, want]
    split
    · exact .inl rfl
    · by_cases hfull : limit ≤ outer.length
      · exact .inr (if_pos hfull)
      · have hroom : ¬limit' ≤ outer.length := by omega
        rw [if_neg hfull, if_neg hroom]
        exact .inl rfl
    · exact .inl rfl
  · exact .inl rfl

/-- What is read with a limit is read with a higher one. -/
lemma take_mono (hlimit : limit ≤ limit') {c c' : Configuration} {token : Located Token}
    (h : c.take limit token = .ok c') : c.take limit' token = .ok c' := by
  rcases take_of_limit hlimit c token with heq | hdeep
  · rw [heq, h]
  · cases h.symm.trans hdeep

lemma advance_mono (hlimit : limit ≤ limit') {c c' : Configuration}
    {tokens : List (Located Token)} (h : c.advance limit tokens = .ok c') :
    c.advance limit' tokens = .ok c' := by
  induction tokens generalizing c with
  | nil => exact h
  | cons token tokens ih =>
      obtain ⟨next, htake, hnext⟩ := advance_cons.1 h
      exact advance_cons.2 ⟨next, take_mono hlimit htake, ih hnext⟩

/-- **A result that does not complain of the limit is the result with a higher one.** -/
theorem outcome_of_limit (hlimit : limit ≤ limit') {c : Configuration} {stream : TokenStream}
    (h : ∀ l offset, c.outcome limit stream ≠ .error ⟨.runtime (.nestingTooDeep l), offset⟩) :
    c.outcome limit' stream = c.outcome limit stream := by
  rcases stream with ⟨tokens, ending⟩
  induction tokens generalizing c with
  | nil => cases ending <;> rfl
  | cons token tokens ih =>
      simp only [outcome_cons] at h ⊢
      rcases take_of_limit hlimit c token with heq | hdeep
      · rw [heq]
        cases htake : c.take limit token with
        | error error => rfl
        | ok next =>
            rw [htake] at h
            exact ih h
      · rw [hdeep] at h
        exact absurd rfl (h limit token.offset)

/-! ## The groups that are open -/

/-- A token opens a group, for which there was room, or closes one, or leaves them as they are. -/
lemma nesting_of_take {c c' : Configuration} {token : Located Token}
    (h : c.take limit token = .ok c') :
    (token.value = .leftParen ∧ c.outer.length < limit ∧ c'.outer.length = c.outer.length + 1)
      ∨ (token.value = .rightParen ∧ c.outer.length = c'.outer.length + 1)
      ∨ (token.value ≠ .leftParen ∧ token.value ≠ .rightParen
        ∧ c'.outer.length = c.outer.length) := by
  rcases c with ⟨top, outer, _ | operand⟩
  · rcases want_eq_ok h with ⟨value, htoken, rfl⟩ | ⟨htoken, hroom, rfl⟩
    · exact .inr (.inr (by simp [htoken]))
    · exact .inl ⟨htoken, hroom, rfl⟩
  · obtain ⟨term, -, h⟩ := hold_eq_ok h
    rcases h with ⟨op, hop, rfl⟩ | ⟨value, -, ⟨op, hop, rfl⟩ | ⟨below, rest, rfl, htoken, rfl⟩⟩
    · exact .inr (.inr (by simp [(Token.operatorAt?_eq_some_iff.1 hop).1]))
    · exact .inr (.inr (by simp [(Token.operatorAt?_eq_some_iff.1 hop).1]))
    · exact .inr (.inl ⟨htoken, rfl⟩)

/-- What one token does to the open groups is its balance, and they stay within the limit. -/
lemma length_of_take {c c' : Configuration} {token : Located Token}
    (h : c.take limit token = .ok c') :
    (c'.outer.length : Int) = c.outer.length + balance [token]
      ∧ (c.outer.length ≤ limit → c'.outer.length ≤ limit) := by
  rcases nesting_of_take h with ⟨htoken, hroom, hlength⟩ | ⟨htoken, hlength⟩ | ⟨hl, hr, hlength⟩
  · have hbalance : balance [token] = 1 := by simp [balance, htoken]
    omega
  · have hbalance : balance [token] = -1 := by simp [balance, htoken]
    omega
  · have hbalance : balance [token] = 0 := by simp [balance, hl, hr]
    omega

/-- **The groups that are open are counted by the balance of the tokens read.** -/
lemma length_of_advance {c c' : Configuration} {tokens : List (Located Token)}
    (h : c.advance limit tokens = .ok c') :
    (c'.outer.length : Int) = c.outer.length + balance tokens
      ∧ (c.outer.length ≤ limit → c'.outer.length ≤ limit) := by
  induction tokens generalizing c with
  | nil =>
      cases h
      simp
  | cons token tokens ih =>
      obtain ⟨next, htake, hnext⟩ := advance_cons.1 h
      obtain ⟨hstep, hlimit⟩ := length_of_take htake
      obtain ⟨hrun, hlimit'⟩ := ih hnext
      rw [balance_cons, hrun, hstep]
      exact ⟨Int.add_assoc _ _ _, fun hroom => hlimit' (hlimit hroom)⟩

/-- From the start on, there are as many as the balance says, and never more than allowed. -/
lemma balance_of_advance {c : Configuration} {tokens : List (Located Token)}
    (h : initial.advance limit tokens = .ok c) :
    balance tokens = c.outer.length ∧ c.outer.length ≤ limit := by
  obtain ⟨hlength, hlimit⟩ := length_of_advance h
  refine ⟨?_, hlimit (Nat.zero_le _)⟩
  rw [hlength]
  exact (Int.zero_add _).symm

/-- There are no more open groups than tokens read. -/
lemma length_outer_le {c : Configuration} {tokens : List (Located Token)}
    (h : initial.advance limit tokens = .ok c) : c.outer.length ≤ tokens.length := by
  obtain ⟨hbalance, -⟩ := balance_of_advance h
  have hcount : tokens.countP (fun token => token.value = .leftParen) ≤ tokens.length :=
    List.countP_le_length
  rw [balance] at hbalance
  omega

/-! ## Where the limit is reached -/

lemma settle_ne_nestingTooDeep {pending? : Option Pending} {right : Int} {l offset : Nat} :
    settle pending? right ≠ .error ⟨.runtime (.nestingTooDeep l), offset⟩ := by
  intro h
  obtain ⟨pending, -, failure, happly, herror⟩ := settle_eq_error_iff.1 h
  rcases Operator.apply_eq_error_iff.1 happly with ⟨-, -, rfl⟩ | ⟨_, -, -, rfl⟩ <;> cases herror

/-- The limit is reached at an opening parenthesis where as many groups are open as are allowed. -/
lemma take_eq_nestingTooDeep {c : Configuration} {token : Located Token} {l offset : Nat}
    (h : c.take limit token = .error ⟨.runtime (.nestingTooDeep l), offset⟩) :
    token = ⟨.leftParen, offset⟩ ∧ limit ≤ c.outer.length ∧ l = limit := by
  rcases c with ⟨top, outer, _ | operand⟩
  · rcases want_eq_error h with ⟨htoken, hfull, herror⟩ | ⟨-, -, herror⟩
    · rcases token with ⟨token, place⟩
      obtain rfl : token = .leftParen := htoken
      cases herror
      exact ⟨rfl, hfull, rfl⟩
    · cases herror
  · rcases hold_eq_error h with h | ⟨term, -, -, h | ⟨value, -, -, ⟨-, h⟩ | ⟨-, -, h⟩⟩⟩
    · exact absurd h settle_ne_nestingTooDeep
    · exact absurd h settle_ne_nestingTooDeep
    · cases h
    · cases h

/-- **Where an evaluation is cut off**: at the first opening parenthesis before which the balance is
the limit.  Before all earlier ones it is less. -/
lemma balance_of_nestingTooDeep {stream : TokenStream}
    (hoffsets : stream.offsets.Pairwise (· < ·)) {l offset : Nat}
    (h : initial.outcome limit stream = .error ⟨.runtime (.nestingTooDeep l), offset⟩) :
    l = limit ∧ ⟨.leftParen, offset⟩ ∈ stream.tokens ∧ balance (stream.before offset) = limit
      ∧ ∀ other, ⟨.leftParen, other⟩ ∈ stream.tokens → other < offset →
          balance (stream.before other) < limit := by
  obtain ⟨pulled, hbreaks⟩ := exists_breaksOff h
  cases hbreaks with
  | @token before after token c tokens_eq reads fails =>
      obtain ⟨rfl, hfull, rfl⟩ := take_eq_nestingTooDeep fails
      obtain ⟨hbalance, hlimit⟩ := balance_of_advance reads
      refine ⟨rfl, by simp [tokens_eq], ?_, ?_⟩
      · rw [TokenStream.before_of_append hoffsets tokens_eq, hbalance, Nat.le_antisymm hlimit hfull]
      · intro other hmem hlt
        obtain ⟨back, rfl⟩ := TokenStream.exists_before_of_lt hoffsets tokens_eq hmem hlt
        -- the machine took the earlier parenthesis, so there was room for its group
        obtain ⟨middle, hmiddle, hrest⟩ := advance_append.1 reads
        obtain ⟨next, htake, -⟩ := advance_cons.1 hrest
        have hroom : middle.outer.length < l := by
          rcases nesting_of_take htake with ⟨-, hroom, -⟩ | ⟨htoken, -⟩ | ⟨htoken, -⟩
          · exact hroom
          · cases htoken
          · exact absurd rfl htoken
        rw [(balance_of_advance hmiddle).1]
        exact Int.ofNat_lt.2 hroom
  | endOfInput ending_eq reads fails =>
      obtain ⟨htoken, -, -⟩ := take_eq_nestingTooDeep (take_of_finish fails limit)
      cases htoken
  | failure ending_eq reads fails => cases fails

end Machine.Configuration

/-- **The limit on nesting only cuts off.**  A result that does not complain of the limit is the
result with every higher limit.  If a result does complain, it names the limit and the first opening
parenthesis that comes after as many open groups as the limit allows, and with a higher limit there
is no complaint up to that place. -/
theorem evaluateWithin_limit {limit limit' : Nat} (hlimit : limit < limit') (input : String) :
    ((∀ l offset, evaluateWithin limit input ≠ .error ⟨.runtime (.nestingTooDeep l), offset⟩) →
        evaluateWithin limit' input = evaluateWithin limit input)
      ∧ ∀ l offset, evaluateWithin limit input = .error ⟨.runtime (.nestingTooDeep l), offset⟩ →
          l = limit
          ∧ ⟨.leftParen, offset⟩ ∈ (TokenStream.ofString input).tokens
          ∧ balance ((TokenStream.ofString input).before offset) = limit
          ∧ (∀ other, ⟨.leftParen, other⟩ ∈ (TokenStream.ofString input).tokens →
              balance ((TokenStream.ofString input).before other) = limit → offset ≤ other)
          ∧ ∀ l' offset', evaluateWithin limit' input
              = .error ⟨.runtime (.nestingTooDeep l'), offset'⟩ → offset < offset' := by
  have hoffsets := TokenStream.offsets_ofString input
  simp only [evaluateWithin_eq_outcome]
  generalize TokenStream.ofString input = stream at *
  refine ⟨Machine.Configuration.outcome_of_limit (Nat.le_of_lt hlimit), ?_⟩
  intro l offset h
  obtain ⟨rfl, hmem, hbalance, hearlier⟩ :=
    Machine.Configuration.balance_of_nestingTooDeep hoffsets h
  refine ⟨rfl, hmem, hbalance, ?_, ?_⟩
  · intro other hother hequal
    by_contra hlt
    have hless := hearlier other hother (Nat.lt_of_not_le hlt)
    omega
  · intro l' offset' h'
    obtain ⟨-, hmem', hbalance', -⟩ := Machine.Configuration.balance_of_nestingTooDeep hoffsets h'
    by_contra hle
    rcases Nat.lt_or_eq_of_le (Nat.le_of_not_lt hle) with hlt | rfl
    · have hless := hearlier offset' hmem' hlt
      omega
    · omega

/-- In `(1)+((2))` one group at a time is not enough for the last two, and a limit of two is as good
as a limit of three. -/
theorem evaluateWithin_limit_siblings :
    evaluateWithin 1 "(1)+((2))" = .error ⟨.runtime (.nestingTooDeep 1), 5⟩
      ∧ balance ((TokenStream.ofString "(1)+((2))").before 5) = 1
      ∧ evaluateWithin 3 "(1)+((2))" = evaluateWithin 2 "(1)+((2))" := by
  have hstream : TokenStream.ofString "(1)+((2))"
      = ⟨[⟨.leftParen, 0⟩, ⟨.number 1, 1⟩, ⟨.rightParen, 2⟩, ⟨.operator .add, 3⟩, ⟨.leftParen, 4⟩,
          ⟨.leftParen, 5⟩, ⟨.number 2, 6⟩, ⟨.rightParen, 7⟩, ⟨.rightParen, 8⟩], .endOfInput 9⟩ := by
    decide +kernel
  have h : evaluateWithin 1 "(1)+((2))" = .error ⟨.runtime (.nestingTooDeep 1), 5⟩ := by
    rw [evaluateWithin_eq_outcome, hstream]
    rfl
  have h' : evaluateWithin 2 "(1)+((2))" = .ok 3 := by
    rw [evaluateWithin_eq_outcome, hstream]
    rfl
  obtain ⟨-, hcut⟩ := evaluateWithin_limit (Nat.lt_succ_self 1) "(1)+((2))"
  obtain ⟨-, -, hbalance, -, -⟩ := hcut 1 5 h
  obtain ⟨hsame, -⟩ := evaluateWithin_limit (Nat.lt_succ_self 2) "(1)+((2))"
  refine ⟨h, hbalance, hsame ?_⟩
  rw [h']
  exact nofun

end Calculator
