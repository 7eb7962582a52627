import LowLatencyVoice.Lib.Goroutines
import LowLatencyVoice.Storage.VoiceTokens

open low_latency_voice.model Goroutines

namespace low_latency_voice.storage

/-- A repository call on the token table. -/
inductive TokenCall where
  | consume (token : Token)
  | revoke (userID : UInt32)

/-- The SQL statements of these calls. The update of `ConsumeVoiceToken` is to be
done by a call that has read `vt`. -/
inductive TokenStatement where
  | select (token : Token)
  | update (token : Token) (vt : VoiceToken)
  | delete (userID : UInt32)
  deriving DecidableEq

/-- The clock at a statement, and whether it fails. -/
structure Moment where
  now : Time
  fault : Fault

/-- What a `ConsumeVoiceToken` of `token` has returned. -/
structure Reply (γ : Type) where
  caller : γ
  token : Token
  result : Except StorageError VoiceToken

/-- Whether it is a success for `token`. -/
def Reply.redeems {γ : Type} (r : Reply γ) (token : Token) : Bool :=
  r.token == token && r.result.toOption.isSome

/-- The table, and the calls that have returned. -/
structure TokenStore (γ : Type) where
  rows : VoiceTokens
  replies : List (Reply γ)

namespace TokenStore

variable {γ : Type}

def reply (s : TokenStore γ) (g : γ) (token : Token) (result : Except StorageError VoiceToken) :
    TokenStore γ :=
  { s with replies := s.replies ++ [⟨g, token, result⟩] }

/-- The calls that have redeemed `token`. -/
def redemptions (s : TokenStore γ) (token : Token) : List (Reply γ) :=
  s.replies.filter fun r => r.redeems token

/-- One statement. `ConsumeVoiceToken` is `GetVoiceToken` and, if that returns a row,
the conditional update. -/
def exec (s : TokenStore γ) (g : γ) (x : Moment) : TokenStatement → TokenStore γ × List TokenStatement
  | .select token =>
    match getVoiceToken s.rows x.now x.fault token with
    | .error e => (s.reply g token (.error e), [])
    | .ok vt => (s, [.update token vt])
  | .update token vt =>
    if x.fault = .exec then (s.reply g token (.error .failedToConsume), [])
    else
      let (rows, affected) := markConsumed s.rows token
      let s := { s with rows }
      if affected = 0 then (s.reply g token (.error .voiceTokenConsumed), [])
      else (s.reply g token (.ok { vt with isConsumed := true }), [])
  | .delete userID =>
    if x.fault = .exec then (s, []) else ({ s with rows := revokeVoiceTokens s.rows userID }, [])

end TokenStore

/-- Any number of callers on one table. -/
def tokenCalls (γ : Type) : Goroutines γ (TokenStore γ) (γ × TokenCall) TokenStatement Moment where
  owner := Prod.fst
  program _
    | (_, .consume token) => [.select token]
    | (_, .revoke userID) => [.delete userID]
  perform s g a x := some (s.exec g x a)

/-- The conditional update changes the row if it is there and unconsumed, and
otherwise nothing. -/
theorem markConsumed_cases (rows : VoiceTokens) (token : Token) :
    (∃ row, rows.get? token = some row ∧ row.isConsumed = false ∧
      markConsumed rows token = (rows.set token { row with isConsumed := true }, 1)) ∨
    ((∀ row, rows.get? token = some row → row.isConsumed = true) ∧ markConsumed rows token = (rows, 0)) := by
  unfold markConsumed
  cases hget : rows.get? token with
  | none =>
    right
    refine ⟨fun row hrow => ?_, rfl⟩
    cases hrow
  | some row =>
    cases hconsumed : row.isConsumed with
    | true =>
      right
      refine ⟨fun row' hrow => ?_, by simp [hconsumed]⟩
      cases hrow
      exact hconsumed
    | false =>
      left
      exact ⟨row, rfl, hconsumed, by simp [hconsumed]⟩

namespace TokenStore

variable {γ : Type} (s : TokenStore γ) (g : γ) (x : Moment) (token t : Token)

@[simp] theorem rows_reply (result : Except StorageError VoiceToken) :
    (s.reply g token result).rows = s.rows := rfl

/-- A returned error redeems nothing. -/
@[simp] theorem redemptions_reply_error (e : StorageError) :
    (s.reply g token (.error e)).redemptions t = s.redemptions t := by
  simp [redemptions, reply, Reply.redeems, Except.toOption]

@[simp] theorem redemptions_reply_ok (vt : VoiceToken) :
    (s.reply g token (.ok vt)).redemptions t =
      if token = t then s.redemptions t ++ [⟨g, token, .ok vt⟩] else s.redemptions t := by
  by_cases htoken : token = t <;> simp [redemptions, reply, Reply.redeems, Except.toOption, htoken]

/-- The read: an error is returned, or the update is next. -/
theorem exec_select_cases :
    (∃ e, getVoiceToken s.rows x.now x.fault token = .error e ∧
      s.exec g x (.select token) = (s.reply g token (.error e), [])) ∨
    ∃ vt, x.fault ≠ .query ∧ LiveRow s.rows x.now token vt ∧
      s.exec g x (.select token) = (s, [.update token vt]) := by
  cases hread : getVoiceToken s.rows x.now x.fault token with
  | error e => exact .inl ⟨e, rfl, by simp [exec, hread]⟩
  | ok vt =>
    obtain ⟨hfault, hlive⟩ := getVoiceToken_eq_ok_iff.mp hread
    exact .inr ⟨vt, hfault, hlive, by simp [exec, hread]⟩

/-- The update: it changes a row that is there and unconsumed and the call succeeds,
or it changes nothing and the call fails. -/
theorem exec_update_cases (vt : VoiceToken) :
    (∃ row, x.fault ≠ .exec ∧ s.rows.get? token = some row ∧ row.isConsumed = false ∧
      s.exec g x (.update token vt) =
        (({ s with rows := s.rows.set token { row with isConsumed := true } } : TokenStore γ).reply g
          token (.ok { vt with isConsumed := true }), [])) ∨
    ((x.fault ≠ .exec → ∀ row, s.rows.get? token = some row → row.isConsumed = true) ∧ ∃ e,
      s.exec g x (.update token vt) = (s.reply g token (.error e), [])) := by
  by_cases hfault : x.fault = .exec
  · right
    exact ⟨fun hok => absurd hfault hok, .failedToConsume, by simp [exec, hfault]⟩
  · obtain ⟨row, hrow, hfresh, hmark⟩ | ⟨hused, hmark⟩ := markConsumed_cases s.rows token
    · left
      exact ⟨row, hfault, hrow, hfresh, by simp [exec, hfault, hmark]⟩
    · right
      exact ⟨fun _ => hused, .voiceTokenConsumed, by simp [exec, hfault, hmark]⟩

/-- A revocation returns nothing and keeps the rows of other users. -/
theorem exec_delete_cases (userID : UInt32) :
    s.exec g x (.delete userID) = (s, []) ∨
      s.exec g x (.delete userID) = ({ s with rows := revokeVoiceTokens s.rows userID }, []) := by
  by_cases hfault : x.fault = .exec
  · left
    simp [exec, hfault]
  · right
    simp [exec, hfault]

end TokenStore

section calls

variable {γ : Type} [DecidableEq γ]

/-- A call that is not interrupted is `consumeVoiceToken`. -/
theorem run_consume_uninterrupted (s : TokenStore γ) (g : γ) (now : Time) (fault : Fault) (token : Token) :
    ((tokenCalls γ).machine.run (idle s)
        [.serve (g, .consume token), .advance g ⟨now, fault⟩, .advance g ⟨now, fault⟩]).shared =
      ({ s with rows := (consumeVoiceToken s.rows now fault token).1 } : TokenStore γ).reply g token
        (consumeVoiceToken s.rows now fault token).2 := by
  unfold consumeVoiceToken
  cases hread : getVoiceToken s.rows now fault token with
  | error e =>
    simp [Machine.next, machine, step, tokenCalls, idle, TokenStore.exec, hread]
  | ok vt =>
    by_cases hfault : fault = .exec
    · subst fault
      simp [Machine.next, machine, step, tokenCalls, idle, TokenStore.exec, hread]
    · by_cases haffected : (markConsumed s.rows token).2 = 0
      · simp [Machine.next, machine, step, tokenCalls, idle, TokenStore.exec, hread, hfault, haffected]
      · simp [Machine.next, machine, step, tokenCalls, idle, TokenStore.exec, hread, hfault, haffected]

section issued

variable (s₀ : TokenStore γ) (t : Token)

/-- The turn lets `g` act. -/
def Advances (g : γ) : Turn γ (γ × TokenCall) Moment → Prop
  | .serve _ => False
  | .advance g' _ => g' = g

/-- The turn is the read of a call of `g` on `t`, and finds the row unconsumed and
unexpired. -/
def ReadsLive (vt : VoiceToken) (g : γ) (pre : List (Turn γ (γ × TokenCall) Moment))
    (turn : Turn γ (γ × TokenCall) Moment) : Prop :=
  ∃ x, turn = .advance g x ∧
    (∃ rest, ((tokenCalls γ).machine.run (idle s₀) pre).todo g = .select t :: rest) ∧
    LiveRow ((tokenCalls γ).machine.run (idle s₀) pre).shared.rows x.now t vt

/-- The table and the calls under way, for a token issued as `vt`: while the row is as
issued nobody has redeemed the token, once it is consumed one call has, and a call about
to update has read the row live in its last step. -/
structure Redeemable (vt : VoiceToken) (pre : List (Turn γ (γ × TokenCall) Moment))
    (k : Config γ (TokenStore γ) TokenStatement) : Prop where
  single : Single k
  row : ∀ row, k.shared.rows.get? t = some row →
    row = vt ∧ k.shared.redemptions t = [] ∨
      row = { vt with isConsumed := true } ∧ (k.shared.redemptions t).length = 1
  once : (k.shared.redemptions t).length ≤ 1
  read : ∀ g vt', .update t vt' ∈ k.todo g → vt' = vt ∧
    Machine.Since (ReadsLive s₀ t vt g) (Advances g) pre

/-- The turn is the read of a call on `t`, in time. -/
def ReadsInTime (vt : VoiceToken) (pre : List (Turn γ (γ × TokenCall) Moment))
    (turn : Turn γ (γ × TokenCall) Moment) : Prop :=
  ∃ g x, turn = .advance g x ∧
    (∃ rest, ((tokenCalls γ).machine.run (idle s₀) pre).todo g = .select t :: rest) ∧ x.now ≤ vt.expiresAt

/-- The turn takes up no revocation of this user's tokens, and no statement fails at it. -/
def Untroubled (userID : UInt32) : Turn γ (γ × TokenCall) Moment → Prop
  | .serve (_, call) => call ≠ .revoke userID
  | .advance _ x => x.fault = .none

variable {s₀ t} {vt : VoiceToken}

omit [DecidableEq γ] in
/-- The update of another token leaves the row and its redemptions alone. -/
theorem exec_update_other (s : TokenStore γ) (g : γ) (x : Moment) {token : Token} (hne : token ≠ t)
    (vt' : VoiceToken) :
    (s.exec g x (.update token vt')).1.rows.get? t = s.rows.get? t ∧
      (s.exec g x (.update token vt')).1.redemptions t = s.redemptions t ∧
      (s.exec g x (.update token vt')).2 = [] := by
  obtain ⟨row, -, -, -, heq⟩ | ⟨-, e, heq⟩ := s.exec_update_cases g x token vt' <;> rw [heq]
  · refine ⟨by simp [Ne.symm hne], ?_, rfl⟩
    simp only [TokenStore.redemptions_reply_ok, if_neg hne]
    rfl
  · exact ⟨rfl, s.redemptions_reply_error g token t e, rfl⟩

/-- The turn of a call under way performs its one statement. -/
theorem step_statement {k : Config γ (TokenStore γ) TokenStatement} (h : Single k) {g : γ}
    {a : TokenStatement} {rest : List TokenStatement} (htodo : k.todo g = a :: rest) (x : Moment) :
    rest = [] ∧ (tokenCalls γ).step k (.advance g x) =
      ⟨(k.shared.exec g x a).1, Function.update k.todo g (k.shared.exec g x a).2⟩ :=
  h.step_advance htodo rfl

/-- A statement of `g` that keeps the row in step, and after which an update of `g` is
due only if it was a live read, keeps the invariant. -/
theorem Redeemable.advance {pre : List (Turn γ (γ × TokenCall) Moment)}
    {k : Config γ (TokenStore γ) TokenStatement} (h : Redeemable s₀ t vt pre k) {g : γ} {x : Moment}
    {s : TokenStore γ} {acts : List TokenStatement} (hacts : acts.length ≤ 1)
    (hrow : ∀ row, s.rows.get? t = some row → row = vt ∧ s.redemptions t = [] ∨
      row = { vt with isConsumed := true } ∧ (s.redemptions t).length = 1)
    (honce : (s.redemptions t).length ≤ 1)
    (hread : ∀ vt', .update t vt' ∈ acts → vt' = vt ∧ ReadsLive s₀ t vt g pre (.advance g x)) :
    Redeemable s₀ t vt (pre ++ [.advance g x]) ⟨s, Function.update k.todo g acts⟩ where
  single := by
    intro g'
    by_cases hg : g' = g
    · simpa [hg] using hacts
    · simpa [Function.update_of_ne hg] using h.single g'
  row := hrow
  once := honce
  read g' vt' hmem := by
    by_cases hg : g' = g
    · subst g'
      simp only [Function.update_self] at hmem
      obtain ⟨hvt, hlive⟩ := hread vt' hmem
      exact ⟨hvt, Machine.since_concat_iff.mpr (.inl hlive)⟩
    · simp only [Function.update_of_ne hg] at hmem
      obtain ⟨hvt, hsince⟩ := h.read g' vt' hmem
      exact ⟨hvt, Machine.since_concat_iff.mpr (.inr ⟨hsince, fun hself => hg hself.symm⟩)⟩

/-- Taking up a call adds no update. -/
theorem Redeemable.serve {pre : List (Turn γ (γ × TokenCall) Moment)}
    {k : Config γ (TokenStore γ) TokenStatement} (h : Redeemable s₀ t vt pre k) (r : γ × TokenCall) :
    Redeemable s₀ t vt (pre ++ [.serve r]) ((tokenCalls γ).step k (.serve r)) := by
  have hkept : ∀ g vt', .update t vt' ∈ k.todo g → vt' = vt ∧
      Machine.Since (ReadsLive s₀ t vt g) (Advances g) (pre ++ [.serve r]) := by
    intro g vt' hmem
    obtain ⟨hvt, hsince⟩ := h.read g vt' hmem
    exact ⟨hvt, Machine.since_concat_iff.mpr (.inr ⟨hsince, id⟩)⟩
  unfold step
  by_cases hidle : k.todo ((tokenCalls γ).owner r) = []
  · simp only [hidle, if_true]
    have hprogram : ((tokenCalls γ).program k.shared r).length ≤ 1 ∧
        ∀ vt', .update t vt' ∉ (tokenCalls γ).program k.shared r := by
      obtain ⟨g, token | userID⟩ := r <;> simp [tokenCalls]
    refine ⟨h.single.serve _ hprogram.1, h.row, h.once, fun g vt' hmem => hkept g vt' ?_⟩
    by_cases hg : g = (tokenCalls γ).owner r
    · subst g
      simp only [Function.update_self] at hmem
      exact absurd hmem (hprogram.2 vt')
    · simpa [Function.update_of_ne hg] using hmem
  · simp only [hidle, if_false]
    exact ⟨h.single, h.row, h.once, hkept⟩

/-- One turn keeps the invariant: the read finds the row as the invariant has it, the
update changes it from unconsumed to consumed and counts once, a revocation at most
removes it. -/
theorem Redeemable.step {pre : List (Turn γ (γ × TokenCall) Moment)} (hfresh : vt.isConsumed = false)
    (h : Redeemable s₀ t vt pre ((tokenCalls γ).machine.run (idle s₀) pre))
    (turn : Turn γ (γ × TokenCall) Moment) :
    Redeemable s₀ t vt (pre ++ [turn])
      ((tokenCalls γ).step ((tokenCalls γ).machine.run (idle s₀) pre) turn) := by
  set k := (tokenCalls γ).machine.run (idle s₀) pre with hk
  cases turn with
  | serve r => exact h.serve r
  | advance g x =>
    cases htodo : k.todo g with
    | nil =>
      rw [(tokenCalls γ).step_advance_nil htodo x]
      refine ⟨h.single, h.row, h.once, fun g' vt' hmem => ?_⟩
      obtain ⟨hvt, hsince⟩ := h.read g' vt' hmem
      refine ⟨hvt, Machine.since_concat_iff.mpr (.inr ⟨hsince, ?_⟩)⟩
      rintro rfl
      rw [htodo] at hmem
      cases hmem
    | cons a rest =>
      obtain ⟨hrest, hstep⟩ := step_statement h.single htodo x
      rw [hstep]
      cases a with
      | select token =>
        obtain ⟨e, -, heq⟩ | ⟨row, -, hlive, heq⟩ := k.shared.exec_select_cases g x token <;> rw [heq]
        · refine h.advance (by simp) ?_ ?_ (by simp)
          · simpa using h.row
          · simpa using h.once
        · refine h.advance (by simp) h.row h.once ?_
          intro vt' hmem
          obtain ⟨rfl, rfl⟩ : t = token ∧ vt' = row := by simpa using hmem
          obtain ⟨rfl, -⟩ | ⟨hconsumed, -⟩ := h.row vt' hlive.1
          · exact ⟨rfl, x, rfl, ⟨rest, by rw [← hk]; exact htodo⟩, by rw [← hk]; exact hlive⟩
          · have hunused := hlive.2.1
            rw [hconsumed] at hunused
            cases hunused
      | update token vt' =>
        by_cases htoken : token = t
        · subst token
          have hvt : vt' = vt := (h.read g vt' (by rw [htodo]; exact List.mem_cons_self)).1
          subst vt'
          obtain ⟨row, -, hrow, hunused, heq⟩ | ⟨-, e, heq⟩ := k.shared.exec_update_cases g x t vt <;>
            rw [heq]
          · obtain ⟨rfl, hnone⟩ | ⟨hconsumed, -⟩ := h.row row hrow
            · have hone : ((({ k.shared with
                  rows := k.shared.rows.set t { row with isConsumed := true } } : TokenStore γ).reply
                    g t (.ok { row with isConsumed := true })).redemptions t).length = 1 := by
                rw [TokenStore.redemptions_reply_ok, if_pos rfl, List.length_append]
                change (k.shared.redemptions t).length + 1 = 1
                rw [hnone]
                rfl
              refine h.advance (by simp) ?_ (Nat.le_of_eq hone) (by simp)
              intro row' hrow'
              simp only [TokenStore.rows_reply, GoMap.get?_set, if_true] at hrow'
              cases hrow'
              exact .inr ⟨rfl, hone⟩
            · rw [hconsumed] at hunused
              cases hunused
          · refine h.advance (by simp) ?_ ?_ (by simp)
            · simpa using h.row
            · simpa using h.once
        · obtain ⟨hrows, hredeemed, hacts⟩ := exec_update_other k.shared g x htoken vt'
          rw [hacts]
          refine h.advance (by simp) ?_ ?_ (by simp)
          · rw [hrows, hredeemed]
            exact h.row
          · rw [hredeemed]
            exact h.once
      | delete userID =>
        obtain heq | heq := k.shared.exec_delete_cases g x userID <;> rw [heq]
        · exact h.advance (by simp) h.row h.once (by simp)
        · refine h.advance (by simp) ?_ h.once (by simp)
          intro row hrow
          simp only [get?_revokeVoiceTokens, Option.filter_eq_some_iff] at hrow
          exact h.row row hrow.1

/-- Without revocations the row stays, and once a call has read it in time a call is
about to update it or one has redeemed the token. -/
structure Underway (s₀ : TokenStore γ) (t : Token) (vt : VoiceToken)
    (pre : List (Turn γ (γ × TokenCall) Moment)) (k : Config γ (TokenStore γ) TokenStatement) : Prop where
  present : k.shared.rows.get? t ≠ none
  kept : ∀ g, .delete vt.userID ∉ k.todo g
  progress : Machine.Earlier (ReadsInTime s₀ t vt) pre →
    (∃ g vt', .update t vt' ∈ k.todo g) ∨ (k.shared.redemptions t).length = 1

omit [DecidableEq γ] in
/-- No statement takes a redemption back. -/
theorem redemptions_exec_le (s : TokenStore γ) (g : γ) (x : Moment) (a : TokenStatement) :
    (s.redemptions t).length ≤ ((s.exec g x a).1.redemptions t).length := by
  cases a with
  | select token =>
    obtain ⟨e, -, heq⟩ | ⟨row, -, -, heq⟩ := s.exec_select_cases g x token <;> rw [heq]
    simp
  | update token vt' =>
    obtain ⟨row, -, -, -, heq⟩ | ⟨-, e, heq⟩ := s.exec_update_cases g x token vt' <;> rw [heq]
    · rw [TokenStore.redemptions_reply_ok]
      split
      · rw [List.length_append]
        exact Nat.le_add_right _ _
      · exact Nat.le_refl _
    · simp
  | delete userID =>
    obtain heq | heq := s.exec_delete_cases g x userID <;> rw [heq]
    exact Nat.le_refl _

omit [DecidableEq γ] in
/-- Only a revocation of its user takes the row away. -/
theorem present_exec (s : TokenStore γ) (g : γ) (x : Moment) {a : TokenStatement} {row : VoiceToken}
    (hrow : s.rows.get? t = some row) (ha : a ≠ .delete row.userID) :
    (s.exec g x a).1.rows.get? t ≠ none := by
  cases a with
  | select token =>
    obtain ⟨e, -, heq⟩ | ⟨_, -, -, heq⟩ := s.exec_select_cases g x token <;> simp [heq, hrow]
  | update token vt' =>
    obtain ⟨row', -, -, -, heq⟩ | ⟨-, e, heq⟩ := s.exec_update_cases g x token vt' <;> rw [heq]
    · by_cases htoken : t = token
      · simp [htoken]
      · simp [htoken, hrow]
    · simp [hrow]
  | delete userID =>
    obtain heq | heq := s.exec_delete_cases g x userID <;> rw [heq]
    · simp [hrow]
    · have hother : row.userID ≠ userID := by
        rintro rfl
        exact ha rfl
      simp [hrow, Option.filter, hother]

/-- A statement with no failure: a read in time leaves an update due or has found the
token redeemed, and a due update ends in a redemption. -/
theorem Underway.exec {pre : List (Turn γ (γ × TokenCall) Moment)}
    {k : Config γ (TokenStore γ) TokenStatement} (h : Redeemable s₀ t vt pre k) {g : γ} {x : Moment}
    (hfault : x.fault = .none) (hpresent : k.shared.rows.get? t ≠ none) {a : TokenStatement}
    (ha : a = .select t ∧ x.now ≤ vt.expiresAt ∨ ∃ vt', a = .update t vt')
    (hfresh : vt.isConsumed = false) :
    (∃ vt', .update t vt' ∈ (k.shared.exec g x a).2) ∨
      1 ≤ ((k.shared.exec g x a).1.redemptions t).length := by
  obtain ⟨row, hrow⟩ := Option.ne_none_iff_exists'.mp hpresent
  obtain ⟨rfl, hintime⟩ | ⟨vt', rfl⟩ := ha
  · obtain ⟨rfl, hnone⟩ | ⟨-, hone⟩ := h.row row hrow
    · left
      obtain ⟨e, herror, -⟩ | ⟨row', -, -, heq⟩ := k.shared.exec_select_cases g x t
      · have hlive : LiveRow k.shared.rows x.now t row := ⟨hrow, hfresh, hintime⟩
        have hquery : x.fault ≠ .query := by
          rw [hfault]
          decide
        have hok := getVoiceToken_eq_ok_iff.mpr ⟨hquery, hlive⟩
        rw [herror] at hok
        cases hok
      · exact ⟨row', by rw [heq]; exact List.mem_cons_self⟩
    · right
      have hle := redemptions_exec_le (t := t) k.shared g x (.select t)
      omega
  · right
    obtain ⟨row', -, -, -, heq⟩ | ⟨hused, e, heq⟩ := k.shared.exec_update_cases g x t vt'
    · rw [heq, TokenStore.redemptions_reply_ok, if_pos rfl, List.length_append]
      exact Nat.le_add_left _ _
    · have hle := redemptions_exec_le (t := t) k.shared g x (.update t vt')
      obtain ⟨rfl, -⟩ | ⟨-, hone⟩ := h.row row hrow
      · have hconsumed := hused (by rw [hfault]; decide) row hrow
        rw [hfresh] at hconsumed
        cases hconsumed
      · omega

theorem Underway.step {pre : List (Turn γ (γ × TokenCall) Moment)} (hfresh : vt.isConsumed = false)
    (hr : Redeemable s₀ t vt pre ((tokenCalls γ).machine.run (idle s₀) pre))
    (h : Underway s₀ t vt pre ((tokenCalls γ).machine.run (idle s₀) pre))
    {turn : Turn γ (γ × TokenCall) Moment} (hok : Untroubled vt.userID turn) :
    Underway s₀ t vt (pre ++ [turn])
      ((tokenCalls γ).step ((tokenCalls γ).machine.run (idle s₀) pre) turn) := by
  have honce := (hr.step hfresh turn).once
  set k := (tokenCalls γ).machine.run (idle s₀) pre with hk
  cases turn with
  | serve r =>
    have hread : ¬ ReadsInTime s₀ t vt pre (.serve r) := by
      rintro ⟨g, x, hturn, -⟩
      cases hturn
    unfold Goroutines.step
    by_cases hidle : k.todo ((tokenCalls γ).owner r) = []
    · simp only [hidle, if_true]
      refine ⟨h.present, fun g hmem => ?_, fun hearlier => ?_⟩
      · by_cases hg : g = (tokenCalls γ).owner r
        · subst g
          simp only [Function.update_self] at hmem
          obtain ⟨g, token | userID⟩ := r
          · simp [tokenCalls] at hmem
          · obtain rfl : vt.userID = userID := by simpa [tokenCalls] using hmem
            exact hok rfl
        · exact h.kept g (by simpa [Function.update_of_ne hg] using hmem)
      · obtain ⟨g, vt', hmem⟩ | hone :=
          h.progress ((Machine.earlier_concat_iff.mp hearlier).resolve_left hread)
        · exact .inl ⟨g, vt', mem_serve hmem hidle _⟩
        · exact .inr hone
    · simp only [hidle, if_false]
      exact ⟨h.present, h.kept, fun hearlier =>
        h.progress ((Machine.earlier_concat_iff.mp hearlier).resolve_left hread)⟩
  | advance g x =>
    cases htodo : k.todo g with
    | nil =>
      rw [(tokenCalls γ).step_advance_nil htodo x]
      refine ⟨h.present, h.kept, fun hearlier => h.progress ?_⟩
      refine (Machine.earlier_concat_iff.mp hearlier).resolve_left ?_
      rintro ⟨g', x', hturn, ⟨rest, hselect⟩, -⟩
      cases hturn
      rw [← hk, htodo] at hselect
      cases hselect
    | cons a rest =>
      obtain ⟨hrest, hstep⟩ := step_statement hr.single htodo x
      rw [hstep] at honce ⊢
      obtain ⟨row, hrow⟩ := Option.ne_none_iff_exists'.mp h.present
      have huser : row.userID = vt.userID := by
        obtain ⟨rfl, -⟩ | ⟨rfl, -⟩ := hr.row row hrow <;> rfl
      have ha : a ≠ .delete vt.userID := by
        rintro rfl
        exact h.kept g (by rw [htodo]; exact List.mem_cons_self)
      refine ⟨present_exec k.shared g x hrow (by rw [huser]; exact ha), fun g' hmem => ?_, fun hearlier => ?_⟩
      · by_cases hg : g' = g
        · subst g'
          simp only [Function.update_self] at hmem
          cases a with
          | select token =>
            obtain ⟨e, -, heq⟩ | ⟨_, -, -, heq⟩ := k.shared.exec_select_cases g x token <;>
              simp [heq] at hmem
          | update token vt' =>
            obtain ⟨_, -, -, -, heq⟩ | ⟨-, e, heq⟩ := k.shared.exec_update_cases g x token vt' <;>
              simp [heq] at hmem
          | delete userID =>
            obtain heq | heq := k.shared.exec_delete_cases g x userID <;> simp [heq] at hmem
        · exact h.kept g' (by simpa [Function.update_of_ne hg] using hmem)
      · -- one redemption is all there can be, so it is enough to have one
        have hdone : (∃ vt', .update t vt' ∈ (k.shared.exec g x a).2) ∨
            1 ≤ ((k.shared.exec g x a).1.redemptions t).length →
            (∃ g' vt', .update t vt' ∈ Function.update k.todo g (k.shared.exec g x a).2 g') ∨
              ((k.shared.exec g x a).1.redemptions t).length = 1 := by
          rintro (⟨vt', hmem⟩ | hge)
          · exact .inl ⟨g, vt', by simpa using hmem⟩
          · exact .inr (Nat.le_antisymm honce hge)
        obtain ⟨g', x', hturn, ⟨rest', hselect⟩, hintime⟩ | hbefore := Machine.earlier_concat_iff.mp hearlier
        · cases hturn
          rw [← hk, htodo] at hselect
          cases hselect
          exact hdone (Underway.exec hr hok h.present (.inl ⟨rfl, hintime⟩) hfresh)
        · obtain ⟨g', vt', hmem⟩ | hone := h.progress hbefore
          · by_cases hg : g' = g
            · subst g'
              rw [htodo, hrest, List.mem_singleton] at hmem
              exact hdone (Underway.exec hr hok h.present (.inr ⟨vt', hmem.symm⟩) hfresh)
            · exact .inl ⟨g', vt', by simpa [Function.update_of_ne hg] using hmem⟩
          · refine hdone (.inr ?_)
            have hle := redemptions_exec_le (t := t) k.shared g x a
            omega

/-- A turn at which a call succeeds is its update, with the row there and unconsumed. -/
theorem step_redeems {k : Config γ (TokenStore γ) TokenStatement} {turn : Turn γ (γ × TokenCall) Moment}
    {g : γ} {vt' : VoiceToken}
    (h : ((tokenCalls γ).step k turn).shared.replies = k.shared.replies ++ [⟨g, t, .ok vt'⟩]) :
    ∃ read, .update t read ∈ k.todo g ∧ vt' = { read with isConsumed := true } ∧
      ∃ row, k.shared.rows.get? t = some row ∧ row.isConsumed = false := by
  have hsilent : ((tokenCalls γ).step k turn).shared.replies ≠ k.shared.replies := by
    rw [h]
    simp
  obtain hsame | ⟨r, -, -, hserve⟩ | ⟨g', a, s, acts, hperforms⟩ := (tokenCalls γ).step_cases k turn
  · exact absurd (by rw [hsame]) hsilent
  · exact absurd (by rw [hserve]) hsilent
  · obtain ⟨⟨x, -, hperform⟩, rest, htodo, hstep⟩ := hperforms
    have hexec : k.shared.exec g' x a = (s, acts) := by simpa [tokenCalls] using hperform
    rw [hstep] at h hsilent
    have hlast : ∀ r : Reply γ, s.replies = k.shared.replies ++ [r] → r = ⟨g, t, .ok vt'⟩ := by
      intro r hr
      have htail := List.append_cancel_left (hr.symm.trans h)
      exact (List.cons.inj htail).1
    cases a with
    | select token =>
      obtain ⟨e, -, heq⟩ | ⟨row, -, -, heq⟩ := k.shared.exec_select_cases g' x token <;>
        rw [heq] at hexec <;> cases hexec
      · cases hlast _ rfl
      · exact absurd rfl hsilent
    | update token read =>
      obtain ⟨row, -, hrow, hunused, heq⟩ | ⟨-, e, heq⟩ := k.shared.exec_update_cases g' x token read <;>
        rw [heq] at hexec <;> cases hexec
      · cases hlast _ rfl
        exact ⟨read, by rw [htodo]; exact List.mem_cons_self, rfl, row, hrow, hunused⟩
      · cases hlast _ rfl
    | delete userID =>
      obtain heq | heq := k.shared.exec_delete_cases g' x userID <;> rw [heq] at hexec <;> cases hexec <;>
        exact absurd rfl hsilent

end issued

/-- A freshly created token is redeemed at most once by any number of concurrent calls
under any schedule, whatever is revoked meanwhile. The call that succeeds has read the
row live in its last step, finds it unconsumed at its update and returns what was issued.
If the user's tokens are not revoked, no statement fails and some call reads in time,
then once all calls have finished exactly one has succeeded. -/
theorem redeemed_once {rows₀ rows : VoiceTokens} {created expiresAt : Time} {t : Token}
    {userID channelID ssrc : UInt32} {vt : VoiceToken}
    (hcreated : createVoiceToken rows₀ created .none t userID channelID ssrc expiresAt = (rows, .ok vt))
    (ts : List (Turn γ (γ × TokenCall) Moment)) :
    (((tokenCalls γ).machine.run (idle ⟨rows, []⟩) ts).shared.redemptions t).length ≤ 1 ∧
    (∀ pre turn post g vt', ts = pre ++ turn :: post →
      ((tokenCalls γ).machine.run (idle ⟨rows, []⟩) (pre ++ [turn])).shared.replies =
        ((tokenCalls γ).machine.run (idle ⟨rows, []⟩) pre).shared.replies ++ [⟨g, t, .ok vt'⟩] →
      vt'.userID = userID ∧ vt'.channelID = channelID ∧ vt'.ssrc = ssrc ∧
        (∃ row, ((tokenCalls γ).machine.run (idle ⟨rows, []⟩) pre).shared.rows.get? t = some row ∧
          row.isConsumed = false) ∧
        Machine.Since (ReadsLive ⟨rows, []⟩ t vt g) (Advances g) pre) ∧
    ((∀ turn ∈ ts, Untroubled userID turn) →
      Machine.Earlier (ReadsInTime ⟨rows, []⟩ t vt) ts →
      Quiet ((tokenCalls γ).machine.run (idle ⟨rows, []⟩) ts) →
      (((tokenCalls γ).machine.run (idle ⟨rows, []⟩) ts).shared.redemptions t).length = 1) := by
  obtain ⟨-, -, hvt, rfl⟩ := createVoiceToken_eq_ok_iff.mp hcreated
  have hfresh : vt.isConsumed = false := by rw [hvt]
  have hrow : (rows₀.set t vt).get? t = some vt := by simp
  have hstart : Redeemable ⟨rows₀.set t vt, []⟩ t vt [] (idle (⟨rows₀.set t vt, []⟩ : TokenStore γ)) := {
    single := fun g => Nat.zero_le 1
    row := fun row hget => .inl ⟨Option.some.inj (hget.symm.trans hrow), rfl⟩
    once := Nat.zero_le 1
    read := fun g vt' hmem => by cases hmem }
  have hrun : ∀ pre, Redeemable ⟨rows₀.set t vt, []⟩ t vt pre
      ((tokenCalls γ).machine.run (idle ⟨rows₀.set t vt, []⟩) pre) := fun pre =>
    Machine.run_invariant (tokenCalls γ).machine (Redeemable ⟨rows₀.set t vt, []⟩ t vt) hstart
      (fun _ turn _ hinv => hinv.step hfresh turn) pre
      (fun _ _ _ _ => trivial : Machine.Along (fun _ _ => True) pre)
  refine ⟨(hrun ts).once, ?_, ?_⟩
  · intro pre turn post g vt' _ hreturned
    rw [Machine.run_concat] at hreturned
    obtain ⟨read, hmem, rfl, hpresent⟩ := step_redeems hreturned
    obtain ⟨rfl, hsince⟩ := (hrun pre).read g read hmem
    refine ⟨?_, ?_, ?_, hpresent, hsince⟩ <;> rw [hvt]
  · intro hok hread hquiet
    have huser : vt.userID = userID := by rw [hvt]
    have hbegin : Underway ⟨rows₀.set t vt, []⟩ t vt [] (idle (⟨rows₀.set t vt, []⟩ : TokenStore γ)) := {
      present := by
        change (rows₀.set t vt).get? t ≠ none
        rw [hrow]
        exact Option.some_ne_none vt
      kept := fun g hmem => by cases hmem
      progress := fun hearlier => absurd hearlier Machine.not_since_nil }
    have hunderway : Underway ⟨rows₀.set t vt, []⟩ t vt ts
        ((tokenCalls γ).machine.run (idle ⟨rows₀.set t vt, []⟩) ts) :=
      Machine.run_invariant (tokenCalls γ).machine (Underway ⟨rows₀.set t vt, []⟩ t vt) hbegin
        (fun pre turn hturn hinv => hinv.step hfresh (hrun pre) hturn) ts
        (Machine.along_const_iff.mpr fun turn hturn => by rw [huser]; exact hok turn hturn)
    obtain ⟨g, vt', hmem⟩ | hone := hunderway.progress hread
    · rw [hquiet g] at hmem
      cases hmem
    · exact hone

end calls

/-- Two calls that both read before either updates. -/
def race (token : Token) : List (Turn Nat (Nat × TokenCall) Moment) :=
  [.serve (0, .consume token), .serve (1, .consume token), .advance 0 ⟨5, .none⟩, .advance 1 ⟨5, .none⟩,
    .advance 1 ⟨6, .none⟩, .advance 0 ⟨6, .none⟩]

theorem redeemed_once_race :
    (((tokenCalls Nat).machine.run (idle ⟨GoMap.set ∅ [7] ⟨[7], 1, 2, 3, false, 30, 0⟩, []⟩)
      (race [7])).shared.redemptions [7]).length = 1 := by
  have hcreated : createVoiceToken ∅ 0 .none [7] 1 2 3 30 =
      (GoMap.set ∅ [7] ⟨[7], 1, 2, 3, false, 30, 0⟩, .ok ⟨[7], 1, 2, 3, false, 30, 0⟩) := rfl
  refine (redeemed_once hcreated (race [7])).2.2 ?_ ?_ ?_
  · intro turn hturn
    simp only [race, List.mem_cons, List.not_mem_nil, or_false] at hturn
    rcases hturn with rfl | rfl | rfl | rfl | rfl | rfl <;> simp [Untroubled]
  · exact ⟨[.serve (0, .consume [7]), .serve (1, .consume [7])], .advance 0 ⟨5, .none⟩, _, rfl,
      ⟨0, ⟨5, .none⟩, rfl, ⟨[], rfl⟩, by decide⟩, fun _ _ => id⟩
  · exact (tokenCalls Nat).quiet_of_all _ (by decide +kernel)

end low_latency_voice.storage
