import Mathlib.Data.List.Induction
import ScenarioCompiler.Proofs.Settings.Report
import ScenarioCompiler.Settings.Session

namespace ScenarioCompiler.Settings

namespace Session

/-- Whether a call is answered by an attempt to load the settings. -/
def attempts (session : Session) (call : Call) : Bool := !call.reuse || session.cache.isNone

/-- The session after some calls. -/
def after [Yaml.Loader] (session : Session) (calls : List Call) : Session :=
  calls.foldl (fun session call => (session.answer call).1) session

section Loader

variable [Yaml.Loader] {session : Session} {call : Call} {calls : List Call}

@[simp] theorem after_nil (session : Session) : session.after [] = session := rfl

@[simp] theorem after_append_singleton (session : Session) (calls : List Call) (call : Call) :
    session.after (calls ++ [call]) = ((session.after calls).answer call).1 := by
  simp [after]

/-- The number of an answer in a run is the number of calls before it. -/
theorem getElem?_run (session : Session) (earlier : List Call) (call : Call) (later : List Call) :
    (session.run (earlier ++ call :: later))[earlier.length]? =
      some ((session.after earlier).answer call) := by
  induction earlier generalizing session with
  | nil => rfl
  | cons first earlier ih => exact ih (session.answer first).1

/-! ### Single answers -/

theorem answer_of_attempts (h : session.attempts call = true) :
    session.answer call =
      (⟨session.calls + 1, call.attempt.toOption.map (⟨·, session.calls⟩)⟩,
        call.attempt.map (⟨·, session.calls⟩)) := by
  unfold answer
  rw [attempts, Bool.or_eq_true, Bool.not_eq_true', Option.isNone_iff_eq_none] at h
  cases hc : session.cache with
  | none => cases call.attempt <;> rfl
  | some loaded =>
    have hr : call.reuse = false := h.resolve_right (by simp [hc])
    simp only [hr, Bool.false_eq_true, if_false]
    cases call.attempt <;> rfl

theorem answer_of_not_attempts (h : session.attempts call = false) :
    ∃ loaded, session.cache = some loaded ∧
      session.answer call = (⟨session.calls + 1, some loaded⟩, .ok loaded) := by
  rw [attempts, Bool.or_eq_false_iff, Bool.not_eq_false'] at h
  obtain ⟨hr, hn⟩ := h
  cases hc : session.cache with
  | none => simp [hc] at hn
  | some loaded => exact ⟨loaded, rfl, by simp [answer, hc, hr]⟩

theorem calls_answer (session : Session) (call : Call) :
    (session.answer call).1.calls = session.calls + 1 := by
  cases h : session.attempts call with
  | true => rw [answer_of_attempts h]
  | false =>
    obtain ⟨loaded, -, ha⟩ := answer_of_not_attempts h
    rw [ha]

theorem calls_after (calls : List Call) : (after {} calls).calls = calls.length := by
  induction calls using List.reverseRecOn with
  | nil => rfl
  | append_singleton calls call ih =>
    rw [after_append_singleton, calls_answer, ih, List.length_append, List.length_singleton]

/-! ### Runs from the empty session -/

/-- The calls split at the last one that was answered by an attempt. -/
structure LatestAttempt (calls before : List Call) (attempt : Call) (since : List Call) :
    Prop where
  split : calls = before ++ attempt :: since
  attempts : (after {} before).attempts attempt = true
  reused : ∀ first call rest, since = first ++ call :: rest →
    (after {} (before ++ attempt :: first)).attempts call = false

variable {before since : List Call} {attempt : Call}

theorem LatestAttempt.of_attempts (h : (after {} calls).attempts call = true) :
    LatestAttempt (calls ++ [call]) calls call [] where
  split := rfl
  attempts := h
  reused := by simp

theorem LatestAttempt.snoc (hl : LatestAttempt calls before attempt since)
    (h : (after {} calls).attempts call = false) :
    LatestAttempt (calls ++ [call]) before attempt (since ++ [call]) where
  split := by simp [hl.split]
  attempts := hl.attempts
  reused := by
    intro first next rest he
    -- the call is either the new one or among those since the attempt
    rcases List.eq_nil_or_concat rest with rfl | ⟨rest, last, rfl⟩
    · obtain ⟨rfl, hc⟩ := List.append_inj' he rfl
      cases hc
      rw [← hl.split]
      exact h
    · rw [List.concat_eq_append, ← List.cons_append, ← List.append_assoc] at he
      exact hl.reused first next rest (List.append_inj' he rfl).1

/-- The first call finds no settings, so there always is a latest attempt. -/
theorem exists_latestAttempt (hn : calls ≠ []) :
    ∃ before attempt since, LatestAttempt calls before attempt since := by
  induction calls using List.reverseRecOn with
  | nil => exact absurd rfl hn
  | append_singleton calls call ih =>
    cases h : (after {} calls).attempts call with
    | true => exact ⟨calls, call, [], .of_attempts h⟩
    | false =>
      have hne : calls ≠ [] := by
        rintro rfl
        simp [Session.attempts] at h
      obtain ⟨before, attempt, since, hl⟩ := ih hne
      exact ⟨before, attempt, since ++ [call], hl.snoc h⟩

theorem cache_of_reused (ha : (after {} before).attempts attempt = true)
    (hr : ∀ first call rest, since = first ++ call :: rest →
      (after {} (before ++ attempt :: first)).attempts call = false) :
    (after {} (before ++ attempt :: since)).cache =
      attempt.attempt.toOption.map (⟨·, before.length⟩) := by
  induction since using List.reverseRecOn with
  | nil => rw [after_append_singleton, answer_of_attempts ha, calls_after]
  | append_singleton since call ih =>
    obtain ⟨loaded, hc, hl⟩ := answer_of_not_attempts (hr since call [] rfl)
    have hkept := ih fun first next rest he => hr first next (rest ++ [call]) (by simp [he])
    rw [← List.cons_append, ← List.append_assoc, after_append_singleton, hl, ← hkept, hc]

/-- After some calls the session keeps what the latest attempt gave, and nothing if it failed. -/
theorem LatestAttempt.cache_eq (hl : LatestAttempt calls before attempt since) :
    (after {} calls).cache = attempt.attempt.toOption.map (⟨·, before.length⟩) := by
  rw [hl.split]
  exact cache_of_reused hl.attempts hl.reused

/-- The answer to a call is the outcome of the latest attempt up to and including it. -/
theorem LatestAttempt.answer_eq (hl : LatestAttempt (calls ++ [call]) before attempt since) :
    ((after {} calls).answer call).2 = attempt.attempt.map (⟨·, before.length⟩) := by
  rcases List.eq_nil_or_concat since with rfl | ⟨since, last, rfl⟩
  · obtain ⟨rfl, hc⟩ := List.append_inj' hl.split rfl
    cases hc
    rw [answer_of_attempts hl.attempts, calls_after]
  · have hs := hl.split
    rw [List.concat_eq_append, ← List.cons_append, ← List.append_assoc] at hs
    obtain ⟨rfl, hc⟩ := List.append_inj' hs rfl
    cases hc
    have hc := hl.cache_eq
    obtain ⟨loaded, -, ha⟩ := answer_of_not_attempts
      (hl.reused since call [] (List.concat_eq_append ..))
    rw [after_append_singleton, ha] at hc
    rw [ha]
    cases hr : attempt.attempt with
    | error e => simp [hr, Except.toOption] at hc
    | ok settings =>
      simp only [hr, Except.toOption, Option.map_some, Option.some.injEq] at hc
      rw [hc]
      rfl

/-- In a run from the empty session every call is answered with the outcome of the latest attempt
up to it, which is all that the session keeps: settings are kept if and only if that attempt gave
them, and not even the arguments of a call count that makes no attempt. -/
theorem cache_follows_latest_attempt (earlier : List Call) (call : Call) :
    (∀ later, (run {} (earlier ++ call :: later))[earlier.length]? =
        some ((after {} earlier).answer call)) ∧
      (∃ before attempt since, LatestAttempt (earlier ++ [call]) before attempt since) ∧
      (∀ before attempt since, LatestAttempt (earlier ++ [call]) before attempt since →
        ((after {} earlier).answer call).1.cache =
            attempt.attempt.toOption.map (⟨·, before.length⟩) ∧
          ((after {} earlier).answer call).2 = attempt.attempt.map (⟨·, before.length⟩)) ∧
      ((after {} earlier).attempts call = true →
        ((after {} earlier).answer call).2.map Loaded.settings =
          ((answer {} call).2.map Loaded.settings)) ∧
      ((after {} earlier).attempts call = false → ∃ loaded,
        (after {} earlier).cache = some loaded ∧
          ((after {} earlier).answer call).2 = .ok loaded ∧
          ((after {} earlier).answer call).1.cache = some loaded) := by
  refine ⟨getElem?_run {} earlier call, exists_latestAttempt (by simp), ?_, ?_, ?_⟩
  · intro before attempt since hl
    have hc := hl.cache_eq
    rw [after_append_singleton] at hc
    exact ⟨hc, hl.answer_eq⟩
  · intro ha
    rw [answer_of_attempts ha, @answer_of_attempts _ {} call (by simp [attempts])]
    cases call.attempt <;> rfl
  · intro ha
    obtain ⟨loaded, hc, hl⟩ := answer_of_not_attempts ha
    exact ⟨loaded, hc, by rw [hl], by rw [hl]⟩

end Loader

/-- Settings of the least content, given as data. -/
def smallSource : Source := .data (.map [
  (.str "api", .map [(.str "baseUrl", .str "u")]),
  (.str "images", .map [
    (.str "scenarioFetchParameters", .str "f"), (.str "sendDataWarehouse", .str "s")])])

def smallCall : Call := ⟨smallSource, .empty, defaultPrefix, true⟩

/-- A call that asks for a file which does not exist. -/
def missingCall (reuse : Bool) : Call := ⟨.file none, .empty, defaultPrefix, reuse⟩

theorem exists_smallCall : ∃ settings, smallCall.attempt = .ok settings := by
  have ho : Override.ofEnvironment PlatformSettings.decoder.shape defaultPrefix .empty =
      .ok [] := by
    simp [Override.ofEnvironment, Bindings.empty, Override.insertAll]
  simp only [Call.attempt, smallCall, smallSource, Source.document, ok_bind, reported_eq_ok,
    ofDocument, overlaid, ho, mapError_ok, merge]
  exact ⟨_, rfl⟩

/-- Settings that were loaded answer a call that would fail, and a forced reload that fails leaves
none behind. -/
theorem missingCall_follows : ∃ settings, smallCall.attempt = .ok settings ∧
    ((after {} [smallCall]).answer (missingCall true)).2 = .ok ⟨settings, 0⟩ ∧
    ((after {} [smallCall]).answer (missingCall true)).1.cache = some ⟨settings, 0⟩ ∧
    ((after {} [smallCall]).answer (missingCall false)).2 = .error .noFile ∧
    ((after {} [smallCall]).answer (missingCall false)).1.cache = none := by
  obtain ⟨settings, hs⟩ := exists_smallCall
  have hfirst : LatestAttempt [smallCall] [] smallCall [] := @LatestAttempt.of_attempts _ _ [] rfl
  have hkept : (after {} [smallCall]).cache = some ⟨settings, 0⟩ := by
    rw [hfirst.cache_eq, hs]
    rfl
  have hreused : (after {} [smallCall]).attempts (missingCall true) = false := by
    simp [attempts, missingCall, hkept]
  have hl : LatestAttempt ([smallCall] ++ [missingCall true]) [] smallCall [missingCall true] :=
    hfirst.snoc hreused
  have hf : LatestAttempt ([smallCall] ++ [missingCall false]) [smallCall] (missingCall false) [] :=
    .of_attempts rfl
  obtain ⟨-, -, hreuse, -⟩ := cache_follows_latest_attempt [smallCall] (missingCall true)
  obtain ⟨-, -, hreload, -⟩ := cache_follows_latest_attempt [smallCall] (missingCall false)
  obtain ⟨hc, ha⟩ := hreuse _ _ _ hl
  obtain ⟨hc', ha'⟩ := hreload _ _ _ hf
  rw [hs] at hc ha
  exact ⟨settings, hs, ha, hc, ha', hc'⟩

end Session

end ScenarioCompiler.Settings
