import TypedClient.Source.Load
import TypedClient.Proofs.Files.Run
import Mathlib

/-!
# How often an attempt is repeated

Attempts end with the first outcome that is final (`Retry.IsFinal`). The attempts from a given one to the
last, with what is said and how long is waited between them, are a `Retry.Course`. Any outcomes have one
(`Retry.exists_course`), and the loop runs along it, in whatever state it keeps its account
(`Retry.Course.attempts_eq`), so also when a text is fetched (`Source.run_fetchText`). So the number of
attempts and of warnings is known exactly (`Retry.run_accounts`), and no number on the way leaves its word.
-/

namespace TypedClient.Retry

variable {α : Type} {outcomes : Nat → Except Failure α} {fetch : Config.Fetch} {failure : Failure}
  {i j k n : Nat} {pauses : List (Log.Message × Nat)}

/-! ## Failures -/

/-- A failure that may pass: a timeout, a failed connection, too many requests, or a fault of the
server. -/
inductive MayPass : Failure → Prop
  | timeout (url : String) : MayPass (.network url .timeout)
  | connection (url : String) : MayPass (.network url .connection)
  | tooMany (url : String) : MayPass (.network url (.status 429))
  | server (url : String) {code : Nat} (h : 500 ≤ code) : MayPass (.network url (.status code))

theorem isTransient_iff : isTransient failure ↔ MayPass failure := by
  constructor
  · intro h
    fun_cases isTransient failure with
    | case1 url => exact .timeout url
    | case2 url => exact .connection url
    | case3 url code =>
      rw [isTransient, Bool.or_eq_true, decide_eq_true_eq, decide_eq_true_eq] at h
      rcases h with rfl | h
      · exact .tooMany url
      · exact .server url h
    | case4 htimeout hconnection hstatus => simp_all [isTransient]
  · rintro (url | url | url | ⟨url, h⟩)
    · rfl
    · rfl
    · rfl
    · rw [isTransient, decide_eq_true h, Bool.or_true]

/-! ## Delays -/

theorem delay_eq (backoffMs attempt : Nat) :
    delay backoffMs attempt = min (backoffMs * 2 ^ min attempt 16) (2 ^ 64 - 1) :=
  rfl

theorem delay_le_delay (backoffMs : Nat) (h : i ≤ j) : delay backoffMs i ≤ delay backoffMs j := by
  have hpower : 2 ^ min i 16 ≤ 2 ^ min j 16 := Nat.pow_le_pow_right (by decide) (by omega)
  have hproduct := Nat.mul_le_mul_left backoffMs hpower
  rw [delay_eq, delay_eq]
  omega

/-- The power of two in a delay, as a shifted word. -/
def powerWord (attempt : UInt32) : UInt64 :=
  1 <<< (min attempt 16).toUInt64

/-- A product of words that stops at the greatest word. -/
def productWord (a b : UInt64) : UInt64 :=
  if a.toNat * b.toNat < 2 ^ 64 then a * b else -1

/-- The delay before a retry, reckoned in words. -/
def delayWord (backoffMs : UInt64) (attempt : UInt32) : UInt64 :=
  productWord backoffMs (powerWord attempt)

theorem toNat_powerWord (attempt : UInt32) : (powerWord attempt).toNat = 2 ^ min attempt.toNat 16 := by
  have hmin : (min attempt 16).toNat = min attempt.toNat 16 := by
    change (if attempt ≤ 16 then attempt else 16).toNat = _
    rw [apply_ite UInt32.toNat, Nat.min_def]
    rfl
  have hpower : 2 ^ min attempt.toNat 16 ≤ 2 ^ 16 := Nat.pow_le_pow_right (by decide) (by omega)
  have hshift : min attempt.toNat 16 % 64 = min attempt.toNat 16 := Nat.mod_eq_of_lt (by omega)
  have hone : (1 : UInt64).toNat = 1 := rfl
  rw [powerWord, UInt64.toNat_shiftLeft, UInt32.toNat_toUInt64, hmin, hshift, hone, Nat.one_shiftLeft]
  exact Nat.mod_eq_of_lt (by omega)

theorem toNat_productWord (a b : UInt64) :
    (productWord a b).toNat = min (a.toNat * b.toNat) (2 ^ 64 - 1) := by
  rw [productWord]
  split
  next h =>
    rw [UInt64.toNat_mul, Nat.mod_eq_of_lt h]
    omega
  next h =>
    have hgreatest : (-1 : UInt64).toNat = 2 ^ 64 - 1 := rfl
    omega

/-- The shift does not lose its bit and the product does not wrap, so the words hold the delay. -/
theorem toNat_delayWord (backoffMs : UInt64) (attempt : UInt32) :
    (delayWord backoffMs attempt).toNat = delay backoffMs.toNat attempt.toNat := by
  rw [delayWord, toNat_productWord, toNat_powerWord, delay_eq]

/-! ## Courses of attempts -/

/-- No attempt follows the one with this number: it succeeds, fails for good, or has used the last
retry. -/
def IsFinal (outcomes : Nat → Except Failure α) (retries i : Nat) : Prop :=
  (∃ result, outcomes i = .ok result) ∨ (∃ failure, outcomes i = .error failure ∧ ¬ MayPass failure) ∨
    i = retries

/-- The attempts from one to the last, with the warning and the delay before each retry. -/
inductive Course (outcomes : Nat → Except Failure α) (fetch : Config.Fetch) :
    (first last : Nat) → List (Log.Message × Nat) → Prop
  | final {k : Nat} (hfinal : IsFinal outcomes fetch.retries k) (hk : k ≤ fetch.retries) :
    Course outcomes fetch k k []
  | again {k n : Nat} {failure : Failure} {pauses : List (Log.Message × Nat)}
    (houtcome : outcomes k = .error failure) (hpass : MayPass failure) (hk : k < fetch.retries)
    (hrest : Course outcomes fetch (k + 1) n pauses) :
    Course outcomes fetch k n ((announcement failure fetch k, delay fetch.backoffMs k) :: pauses)

/-- Whatever the outcomes are, the attempts come to an end. -/
theorem exists_course (outcomes : Nat → Except Failure α) (fetch : Config.Fetch)
    (hk : k ≤ fetch.retries) : ∃ n pauses, Course outcomes fetch k n pauses := by
  induction hleft : fetch.retries - k generalizing k with
  | zero => exact ⟨k, [], .final (.inr (.inr (by omega))) hk⟩
  | succ left ih =>
    cases houtcome : outcomes k with
    | ok result => exact ⟨k, [], .final (.inl ⟨result, houtcome⟩) hk⟩
    | error failure =>
      by_cases hpass : MayPass failure
      · obtain ⟨n, pauses, hrest⟩ := ih (k := k + 1) (by omega) (by omega)
        exact ⟨n, _, .again houtcome hpass (by omega) hrest⟩
      · exact ⟨k, [], .final (.inr (.inl ⟨failure, houtcome, hpass⟩)) hk⟩

namespace Course

theorem last_le (h : Course outcomes fetch k n pauses) : n ≤ fetch.retries := by
  induction h with
  | final _ hk => exact hk
  | again _ _ _ _ ih => exact ih

/-- A retry is told before each attempt but the first. -/
theorem last_eq (h : Course outcomes fetch k n pauses) : n = k + pauses.length := by
  induction h with
  | final => rfl
  | again _ _ _ _ ih => rw [ih, List.length_cons, Nat.add_right_comm, Nat.add_assoc]

/-- The last attempt is the first one with a final outcome. -/
theorem isLeast (h : Course outcomes fetch k n pauses) :
    IsLeast {i | k ≤ i ∧ IsFinal outcomes fetch.retries i} n := by
  induction h with
  | final hfinal => exact ⟨⟨le_rfl, hfinal⟩, fun i hi => hi.1⟩
  | @again k n failure pauses houtcome hpass hk hrest ih =>
    refine ⟨⟨Nat.le_of_succ_le ih.1.1, ih.1.2⟩, fun i hi => ?_⟩
    rcases Nat.eq_or_lt_of_le hi.1 with rfl | hlt
    · -- the first attempt is not final, for another one follows
      rcases hi.2 with ⟨result, hok⟩ | ⟨other, herror, hother⟩ | hlast
      · rw [houtcome] at hok
        cases hok
      · rw [houtcome] at herror
        cases herror
        exact absurd hpass hother
      · exact absurd hlast hk.ne
    · exact ih.2 ⟨hlt, hi.2⟩

/-- What is said and how long is waited before a retry. -/
theorem getElem?_pauses (h : Course outcomes fetch k n pauses) (hi : i < pauses.length) :
    ∃ failure, outcomes (k + i) = .error failure ∧
      pauses[i]? = some (announcement failure fetch (k + i), delay fetch.backoffMs (k + i)) := by
  induction h generalizing i with
  | final => exact absurd hi (Nat.not_lt_zero i)
  | @again k n failure pauses houtcome _ _ _ ih =>
    cases i with
    | zero => exact ⟨failure, houtcome, rfl⟩
    | succ i =>
      obtain ⟨other, hother, hpause⟩ := ih (Nat.lt_of_succ_lt_succ hi)
      rw [Nat.add_assoc, Nat.add_comm 1 i] at hother hpause
      exact ⟨other, hother, hpause⟩

/-- The delays never decrease. -/
theorem pairwise_delays (h : Course outcomes fetch k n pauses) :
    (pauses.map Prod.snd).Pairwise (· ≤ ·) := by
  rw [List.pairwise_iff_getElem]
  intro i j hi hj hij
  rw [List.length_map] at hi hj
  obtain ⟨_, -, hfirst⟩ := h.getElem?_pauses hi
  obtain ⟨_, -, hsecond⟩ := h.getElem?_pauses hj
  rw [List.getElem?_eq_getElem hi, Option.some.injEq] at hfirst
  rw [List.getElem?_eq_getElem hj, Option.some.injEq] at hsecond
  rw [List.getElem_map, List.getElem_map, hfirst, hsecond]
  exact delay_le_delay _ (Nat.add_le_add_left hij.le k)

/-- The loop runs along its course. `state` is what is kept of the number of attempts made so far and of
the pauses between them. -/
theorem attempts_eq {σ : Type} {attempt : StateM σ (Except Failure α)}
    {pause : Log.Message → Nat → StateM σ Unit} (state : Nat → List (Log.Message × Nat) → σ)
    (hattempt : ∀ made earlier, attempt (state made earlier) = (outcomes made, state (made + 1) earlier))
    (hpause : ∀ made earlier message delayMs, pause message delayMs (state made earlier) =
      ((), state made (earlier ++ [(message, delayMs)])))
    (h : Course outcomes fetch k n pauses) (earlier : List (Log.Message × Nat)) :
    attempts attempt pause fetch (fetch.retries - k) (state k earlier) =
      (outcomes n, state (n + 1) (earlier ++ pauses)) := by
  have hbind {β γ : Type} (x : StateM σ β) (f : β → StateM σ γ) (s : σ) :
      (x >>= f) s = f (x s).1 (x s).2 := rfl
  induction h generalizing earlier with
  | @final k hfinal hk =>
    rw [List.append_nil]
    cases hleft : fetch.retries - k with
    | zero => exact hattempt k earlier
    | succ left =>
      rw [attempts, hbind, hattempt]
      rcases hfinal with ⟨result, hok⟩ | ⟨failure, herror, hpass⟩ | hlast
      · rw [hok]
        rfl
      · have hgood : isTransient failure = false := by
          rw [← Bool.not_eq_true, isTransient_iff]
          exact hpass
        simp only [herror, hgood]
        rfl
      · omega
  | @again k n failure pauses houtcome hpass hk _ ih =>
    obtain ⟨left, hleft⟩ : ∃ left, fetch.retries - k = left + 1 := ⟨fetch.retries - k - 1, by omega⟩
    have hrest : fetch.retries - (k + 1) = left := by omega
    have hnumber : fetch.retries - (left + 1) = k := by omega
    rw [hrest] at ih
    rw [hleft, attempts, hbind, hattempt]
    simp only [houtcome, isTransient_iff.mpr hpass, if_true, hnumber]
    rw [hbind, hpause, ih, List.append_assoc]
    rfl

end Course

/-! ## Attempts with known outcomes -/

/-- How many attempts were made, and what was said and how long was waited between them. -/
structure Trace where
  made : Nat
  pauses : List (Log.Message × Nat)

/-- An attempt whose outcome is the next of the given ones. -/
def scripted (outcomes : Nat → Except Failure α) : StateM Trace (Except Failure α) :=
  fun trace => (outcomes trace.made, { trace with made := trace.made + 1 })

/-- A pause that is written down. -/
def noted (message : Log.Message) (delayMs : Nat) : StateM Trace Unit :=
  fun trace => ((), { trace with pauses := trace.pauses ++ [(message, delayMs)] })

/-- The account of attempts of which the one with number `n` is the last. -/
structure Accounts (outcomes : Nat → Except Failure α) (retries : UInt32) (backoffMs : UInt64) (n : Nat)
    (trace : Trace) : Prop where
  /-- The last attempt is the first one with a final outcome. -/
  last : IsLeast {i | IsFinal outcomes retries.toNat i} n
  made : trace.made = n + 1
  count : trace.pauses.length = n
  told : ∀ k < n, ∃ failure, outcomes k = .error failure ∧
    let delayMs := min (backoffMs.toNat * 2 ^ min k 16) (2 ^ 64 - 1)
    trace.pauses[k]? = some (⟨.warn, failure.message ++ "; retrying in " ++ toString delayMs ++
      "ms (" ++ toString (k + 1) ++ "/" ++ toString retries.toNat ++ ")"⟩, delayMs)
  steady : (trace.pauses.map Prod.snd).Pairwise (· ≤ ·)
  /-- The number of a retry and its delay stay within their words. -/
  words : ∀ k < n, (UInt32.ofNat k + 1).toNat = k + 1 ∧
    (powerWord (UInt32.ofNat k)).toNat = 2 ^ min k 16 ∧
    (delayWord backoffMs (UInt32.ofNat k)).toNat = min (backoffMs.toNat * 2 ^ min k 16) (2 ^ 64 - 1)

/-- Whatever the outcomes are, there is one attempt more than the number of the first final outcome, and a
warning with its delay before each attempt but the first; the outcome is that of the last attempt. -/
theorem run_accounts (outcomes : Nat → Except Failure α) (retries : UInt32) (backoffMs : UInt64)
    (timeoutMs : Nat) :
    ∃ n trace, run (scripted outcomes) noted ⟨retries.toNat, backoffMs.toNat, timeoutMs⟩ ⟨0, []⟩ =
        (outcomes n, trace) ∧
      Accounts outcomes retries backoffMs n trace := by
  obtain ⟨n, pauses, hcourse⟩ :=
    exists_course outcomes ⟨retries.toNat, backoffMs.toNat, timeoutMs⟩ (Nat.zero_le _)
  have hlength : n = pauses.length := by
    rw [hcourse.last_eq, Nat.zero_add]
  refine ⟨n, ⟨n + 1, pauses⟩, ?_, ?_⟩
  · exact hcourse.attempts_eq Trace.mk (fun _ _ => rfl) (fun _ _ _ _ => rfl) []
  · refine ⟨?_, rfl, hlength.symm, fun k hk => ?_, hcourse.pairwise_delays, fun k hk => ?_⟩
    · simpa using hcourse.isLeast
    · obtain ⟨failure, houtcome, hpause⟩ := hcourse.getElem?_pauses (hlength ▸ hk)
      rw [Nat.zero_add] at houtcome hpause
      exact ⟨failure, houtcome, hpause⟩
    · have hretries : n ≤ retries.toNat := hcourse.last_le
      have hbound := retries.toNat_lt
      have hnumber : k + 1 < 2 ^ 32 := by omega
      have hword : (UInt32.ofNat k).toNat = k := UInt32.toNat_ofNat_of_lt' (Nat.lt_of_succ_lt hnumber)
      refine ⟨?_, ?_, ?_⟩
      · rw [UInt32.toNat_add, hword, UInt32.toNat_one, Nat.mod_eq_of_lt hnumber]
      · rw [toNat_powerWord, hword]
      · rw [toNat_delayWord, hword, delay_eq]

end TypedClient.Retry

/-! ## Fetching -/

namespace TypedClient.Source

/-- The outcome of an attempt to fetch; behind the last reply there is no connection. -/
def fetched (world : World) (url : String) (number : Nat) : Except Failure String :=
  textOfReply url (world.replies[number]?.getD .refused)

/-- The world after so many attempts to fetch, with these pauses between them. -/
def afterAttempts (world : World) (made : Nat) (pauses : List (Log.Message × Nat)) : World :=
  { world with
    replies := world.replies.drop made
    messages := world.messages ++ pauses.map Prod.fst
    err := pauses.foldl (fun err pause =>
      if pause.1.level.isShown then err ++ pause.1.line world.time else err) world.err }

/-- A fetch uses up the next reply, if there is one. -/
theorem run_fetch (world : World) (url : String) (timeoutMs : Nat) :
    world.run (Host.fetch url timeoutMs) =
      (world.replies.head?.getD .refused, { world with replies := world.replies.tail }) := by
  obtain ⟨files, nextStaging, out, err, messages, time, replies⟩ := world
  cases replies <;> rfl

theorem run_fetchOnce (world : World) (url : String) (timeoutMs made : Nat)
    (earlier : List (Log.Message × Nat)) :
    (afterAttempts world made earlier).run (fetchOnce url timeoutMs) =
      (fetched world url made, afterAttempts world (made + 1) earlier) := by
  rw [fetchOnce, World.run_bind, run_fetch, fetched, ← List.head?_drop, afterAttempts, afterAttempts,
    ← List.tail_drop]
  rfl

theorem run_pause (world : World) (made : Nat) (earlier : List (Log.Message × Nat))
    (message : Log.Message) (delayMs : Nat) :
    (afterAttempts world made earlier).run (pause message delayMs) =
      ((), afterAttempts world made (earlier ++ [(message, delayMs)])) := by
  simp only [afterAttempts, List.map_append, List.foldl_append, ← List.append_assoc]
  rfl

/-- A text is fetched along the course of the replies to come: one reply is used for each attempt, and what
is said between them is reported. -/
theorem run_fetchText (world : World) (url : String) (fetch : Config.Fetch) :
    ∃ n pauses, Retry.Course (fetched world url) fetch 0 n pauses ∧
      world.run (fetchText url fetch) = (fetched world url n, afterAttempts world (n + 1) pauses) := by
  obtain ⟨n, pauses, hcourse⟩ := Retry.exists_course (fetched world url) fetch (Nat.zero_le _)
  have hstart : afterAttempts world 0 [] = world := by
    simp [afterAttempts]
  have hrun := hcourse.attempts_eq (afterAttempts world)
    (run_fetchOnce world url fetch.timeoutMs) (fun _ _ _ _ => run_pause ..) []
  rw [hstart] at hrun
  exact ⟨n, pauses, hcourse, hrun⟩

end TypedClient.Source
