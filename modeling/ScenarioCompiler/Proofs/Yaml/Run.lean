import ScenarioCompiler.Proofs.Yaml.Delivery

namespace ScenarioCompiler.Yaml.Lexer

/-! ### From one token to the next -/

/-- A lexer that is not at the end, with its possible keys behind it. -/
structure Runs (l : Lexer) : Prop where
  ended : l.ended = false
  line : ∀ k ∈ l.keys, k.2.line ≤ l.cursor.line

/-- A lexer whose tokens all stay in its queue leads to one that is at a goal. Each time it reads
at least one token, and has no possible keys but those that it had and those of the new tokens. -/
inductive Fetches (goal : Lexer → Prop) : Lexer → Prop
  | done {l : Lexer} (h : goal l) : Fetches goal l
  | step {l r m : Lexer} (hl : l.Runs) (hr : l.ready = .ok r) (hd : r.dispatch = .ok m)
      (hq : r.queue.length < m.queue.length)
      (hk : ∀ k ∈ m.keys, k ∈ r.keys ∨ r.queue.length ≤ k.2.tokenNumber)
      (hf : Fetches goal m) : Fetches goal l

variable {l m r full last : Lexer} {delivered : List Token} {token : Token} {queue : List Token}
  {fuel : Nat} {goal : Lexer → Prop}

/-- The lexer without the possible keys that a colon can no longer reach. -/
def forget (l : Lexer) : Lexer := { l with keys := l.keys.filter fun k => !l.isStale k.2 }

/-- What is too far behind stays so. -/
theorem isStale_of_before {key : PossibleKey} (hc : l.cursor.Before m.cursor)
    (hk : key.line ≤ l.cursor.line) (h : l.isStale key = true) : m.isStale key = true := by
  obtain ⟨hline, hindex⟩ := hc
  simp only [isStale, Bool.or_eq_true, bne_iff_ne, decide_eq_true_eq] at h ⊢
  omega

theorem ready_eq_ok (h : l.ready = .ok r) : ∃ c allowed, l.cursor.Before c ∧
    (∀ full : Lexer, full.cursor = l.cursor → full.flowDepth = l.flowDepth →
      full.keyAllowed = l.keyAllowed →
      full.toNextToken = { full with cursor := c, keyAllowed := allowed }) ∧
    (∀ k ∈ l.keys, { l with cursor := c }.isStale k.2 = true → k.2.required = false) ∧
    r = { l with
      cursor := c, keyAllowed := allowed,
      keys := l.keys.filter fun k => !{ l with cursor := c }.isStale k.2 }.unwind c.column := by
  obtain ⟨c, allowed, hc, hnext⟩ := exists_toNextToken l.cursor l.flowDepth l.keyAllowed
  refine ⟨c, allowed, hc, hnext, ?_⟩
  rw [ready, hnext l rfl rfl rfl] at h
  obtain ⟨l', hd, hr⟩ := bind_eq_ok.1 h
  obtain ⟨hstale, rfl⟩ := dropStale_eq_ok.1 hd
  cases hr
  exact ⟨hstale, rfl⟩

/-- Forgetting keys early does not change what is read. -/
theorem Runs.forget (hl : l.Runs) (h : l.ready = .ok r) :
    l.dropStale = .ok l.forget ∧ l.forget.ready = .ok r := by
  obtain ⟨c, allowed, hc, hnext, hrequired, rfl⟩ := ready_eq_ok h
  have hmono : ∀ k ∈ l.keys, l.isStale k.2 = true → { l with cursor := c }.isStale k.2 = true :=
    fun k hk hs => isStale_of_before hc (hl.line k hk) hs
  refine ⟨dropStale_eq_ok.2 ⟨fun k hk hs => hrequired k hk (hmono k hk hs), rfl⟩, ?_⟩
  have hfilter : (l.keys.filter fun k => !l.isStale k.2).filter
      (fun k => !{ l with cursor := c }.isStale k.2) =
        l.keys.filter fun k => !{ l with cursor := c }.isStale k.2 := by
    rw [List.filter_filter]
    refine List.filter_congr fun k hk => ?_
    cases hs : l.isStale k.2 with
    | false => rw [Bool.not_false, Bool.and_true]
    | true => rw [hmono k hk hs]; rfl
  have hdrop : l.forget.toNextToken.dropStale = .ok { l with
      cursor := c, keyAllowed := allowed,
      keys := l.keys.filter fun k => !{ l with cursor := c }.isStale k.2 } := by
    rw [hnext l.forget rfl rfl rfl]
    refine dropStale_eq_ok.2 ⟨fun k hk hs => ?_, ?_⟩
    · exact hrequired k (List.mem_filter.1 hk).1 hs
    · exact congrArg (fun keys => { l with cursor := c, keyAllowed := allowed, keys := keys })
        hfilter.symm
  rw [ready, hdrop]
  rfl

theorem length_unwind (l : Lexer) (column : Int) :
    l.queue.length ≤ (l.unwind column).queue.length := by
  have hto (indents : List Int) (l : Lexer) :
      l.queue.length ≤ (unwindTo column indents l).queue.length := by
    induction indents generalizing l with
    | nil => exact Nat.le_refl _
    | cons outer rest ih =>
      rw [unwindTo]
      split
      · refine Nat.le_trans ?_ (ih _)
        simp [emit]
      · exact Nat.le_refl _
  rw [unwind]
  split
  · exact Nat.le_refl _
  · exact hto _ _

/-- Nothing leaves the queue in front of the next token, and no key comes. -/
theorem Runs.of_ready (hl : l.Runs) (h : l.ready = .ok r) :
    l.queue.length ≤ r.queue.length ∧ ∀ k ∈ r.keys, k ∈ l.forget.keys := by
  obtain ⟨c, allowed, hc, -, -, rfl⟩ := ready_eq_ok h
  refine ⟨length_unwind { l with
    cursor := c, keyAllowed := allowed,
    keys := l.keys.filter fun k => !{ l with cursor := c }.isStale k.2 } _, fun k hk => ?_⟩
  rw [keys_unwind] at hk
  obtain ⟨hk, hs⟩ := List.mem_filter.1 hk
  refine List.mem_filter.2 ⟨hk, ?_⟩
  rw [Bool.not_eq_true'] at hs ⊢
  exact Bool.eq_false_iff.2 fun h =>
    Bool.eq_false_iff.1 hs (isStale_of_before hc (hl.line k hk) h)

theorem Fetches.length_le (h : Fetches goal l) {n : Nat}
    (hn : ∀ last, goal last → last.queue.length ≤ n) : l.queue.length ≤ n := by
  induction h with
  | done h => exact hn _ h
  | step hl hr hd hq hk hf ih =>
    exact Nat.le_trans (hl.of_ready hr).1 (Nat.le_trans (Nat.le_of_lt hq) ih)

/-! ### Delivering the tokens -/

/-- One more token is delivered. -/
theorem Refills.deliver (h : Refills delivered l full) (hq : l.queue = token :: queue) :
    Refills (delivered ++ [token]) { l with queue := queue, taken := l.taken + 1 } full := by
  obtain ⟨ht, rfl⟩ := h
  refine ⟨by simp [ht], ?_⟩
  simp [hq]

theorem run_ended_nil (he : l.ended = true) (hq : l.queue = []) :
    run (fuel + 1) l = ([], none) := by
  rw [run, hq]
  simp [he]

theorem run_ended_cons (he : l.ended = true) (hq : l.queue = token :: queue) :
    run (fuel + 1) l =
      (token :: (run fuel { l with queue := queue, taken := l.taken + 1 }).1,
        (run fuel { l with queue := queue, taken := l.taken + 1 }).2) := by
  rw [run, hq]
  simp [he]

theorem run_nil (he : l.ended = false) (hq : l.queue = []) (hf : l.fetch = .ok m) :
    run (fuel + 1) l = run fuel m := by
  rw [run, hq]
  simp [he, hf]

theorem run_pending (he : l.ended = false) (hq : l.queue = token :: queue)
    (hd : l.dropStale = .ok r) (hp : r.headIsPending = true) (hf : r.fetch = .ok m) :
    run (fuel + 1) l = run fuel m := by
  rw [run, hq]
  simp [he, hd, hp, hf]

theorem run_deliver (he : l.ended = false) (hq : l.queue = token :: queue)
    (hd : l.dropStale = .ok r) (hp : r.headIsPending = false) :
    run (fuel + 1) l =
      (token :: (run fuel { r with queue := queue, taken := r.taken + 1 }).1,
        (run fuel { r with queue := queue, taken := r.taken + 1 }).2) := by
  rw [run, hq]
  simp [he, hd, hp]

theorem Refills.ended_eq (h : Refills delivered l full) : full.ended = l.ended := by rw [h.eq]

theorem Refills.queue_eq (h : Refills delivered l full) : full.queue = delivered ++ l.queue := by
  rw [h.eq]

theorem Refills.dropStale_ok (h : Refills delivered l full) (hd : full.dropStale = .ok m) :
    ∃ l', l.dropStale = .ok l' ∧ Refills delivered l' m := by
  have hr := h.dropStale
  rw [hd] at hr
  exact hr.of_ok

/-- The next token is read from the lexer that delivers its tokens, too. -/
theorem Refills.fetch_ok (h : Refills delivered l full)
    (hk : ∀ k ∈ l.keys, delivered.length ≤ k.2.tokenNumber) (hf : full.Runs)
    (hr : full.ready = .ok r) (hd : r.dispatch = .ok m)
    (hm : ∀ k ∈ m.keys, k ∈ r.keys ∨ r.queue.length ≤ k.2.tokenNumber) :
    ∃ l', l.fetch = .ok l' ∧ Refills delivered l' m ∧
      ∀ k ∈ l'.keys, delivered.length ≤ k.2.tokenNumber := by
  have hfetch := h.fetch hk
  rw [fetch_eq full, hr, ok_bind, hd] at hfetch
  obtain ⟨l', hl, hl'⟩ := hfetch.of_ok
  refine ⟨l', hl, hl', fun k hk' => ?_⟩
  have hlength := (hf.of_ready hr).1
  rw [h.queue_eq, List.length_append] at hlength
  rw [← hl'.keys_eq] at hk'
  rcases hm k hk' with hold | hnew
  · exact hk k (h.keys_eq ▸ mem_keys_of_ready hr k hold)
  · omega

theorem Runs.of_forget (hl : l.Runs) : l.forget.Runs :=
  ⟨hl.ended, fun k hk => hl.line k (List.mem_filter.1 hk).1⟩

theorem le_of_headIsPending (token : Token) (hp : l.headIsPending = false)
    (ht : l.taken = delivered.length)
    (hk : ∀ k ∈ l.keys, delivered.length ≤ k.2.tokenNumber) :
    ∀ k ∈ l.keys, (delivered ++ [token]).length ≤ k.2.tokenNumber := by
  intro k hm
  have hne := List.any_eq_false.1 hp k hm
  rw [beq_iff_eq, ht] at hne
  have := hk k hm
  rw [List.length_append, List.length_singleton]
  omega

/-- At the end the queue is delivered. -/
theorem run_ended (he : l.ended = true) (h : Refills delivered l last)
    (hf : l.queue.length < fuel) :
    delivered ++ (run fuel l).1 = last.queue ∧ (run fuel l).2 = none := by
  induction hq : l.queue generalizing l delivered fuel with
  | nil =>
    obtain ⟨fuel, rfl⟩ := Nat.exists_eq_succ_of_ne_zero (Nat.ne_zero_of_lt hf)
    rw [run_ended_nil he hq, h.queue_eq, hq]
    exact ⟨rfl, rfl⟩
  | cons token queue ih =>
    obtain ⟨fuel, rfl⟩ := Nat.exists_eq_succ_of_ne_zero (Nat.ne_zero_of_lt hf)
    rw [hq] at hf
    have hrest := ih (l := { l with queue := queue, taken := l.taken + 1 }) he (h.deliver hq)
      (Nat.lt_of_succ_lt_succ hf) rfl
    rw [run_ended_cons he hq]
    rwa [List.append_assoc] at hrest

/-- Before the next token is read, those of the queue are delivered that are no possible keys. -/
theorem run_step {N : Nat} {result : List Token → Option Error → Prop}
    (hd : r.dispatch = .ok m) (hq : r.queue.length < m.queue.length)
    (hm : ∀ k ∈ m.keys, k ∈ r.keys ∨ r.queue.length ≤ k.2.tokenNumber)
    (ih : ∀ {delivered : List Token} {l : Lexer} {fuel : Nat}, Refills delivered l m →
      (∀ k ∈ l.keys, delivered.length ≤ k.2.tokenNumber) →
      N < fuel + m.queue.length + delivered.length →
      result (delivered ++ (run fuel l).1) (run fuel l).2)
    (hr : Refills delivered l full) (hfull : full.Runs) (hready : full.ready = .ok r)
    (hk : ∀ k ∈ l.keys, delivered.length ≤ k.2.tokenNumber)
    (hN : 2 * m.queue.length ≤ N)
    (hf : N < fuel + full.queue.length + delivered.length) :
    result (delivered ++ (run fuel l).1) (run fuel l).2 := by
  induction hlq : l.queue generalizing l full delivered fuel with
  | nil =>
    have hlength := (hfull.of_ready hready).1
    have hqueue := hr.queue_eq
    rw [hlq, List.append_nil] at hqueue
    rw [hqueue] at hlength hf
    have he : l.ended = false := hr.ended_eq.symm.trans hfull.ended
    obtain ⟨fuel, rfl⟩ : ∃ f, fuel = f + 1 := ⟨fuel - 1, by omega⟩
    obtain ⟨l', hfetch, hr', hk'⟩ := hr.fetch_ok hk hfull hready hd hm
    rw [run_nil he hlq hfetch]
    exact ih hr' hk' (by omega)
  | cons token queue ih' =>
    have hlength := (hfull.of_ready hready).1
    have hqueue := congrArg List.length hr.queue_eq
    rw [hlq, List.length_append, List.length_cons] at hqueue
    have he : l.ended = false := hr.ended_eq.symm.trans hfull.ended
    obtain ⟨fuel, rfl⟩ : ∃ f, fuel = f + 1 := ⟨fuel - 1, by omega⟩
    obtain ⟨hdrop, hready'⟩ := hfull.forget hready
    obtain ⟨l', hl', hr'⟩ := hr.dropStale_ok hdrop
    have hl := (dropStale_eq_ok.1 hl').2
    have hk' : ∀ k ∈ l'.keys, delivered.length ≤ k.2.tokenNumber := by
      intro k hm
      rw [hl] at hm
      exact hk k (List.mem_filter.1 hm).1
    cases hp : l'.headIsPending with
    | true =>
      -- a key token may have to go in front of the first one, so the next token is read now
      obtain ⟨l'', hfetch, hr'', hk''⟩ := hr'.fetch_ok hk' hfull.of_forget hready' hd hm
      rw [run_pending he hlq hl' hp hfetch]
      exact ih hr'' hk'' (by omega)
    | false =>
      have hlq' : l'.queue = token :: queue := by rw [hl, hlq]
      have hf' : N < fuel + full.forget.queue.length + (delivered ++ [token]).length := by
        rw [List.length_append, List.length_singleton]
        change N < fuel + full.queue.length + (delivered.length + 1)
        omega
      have hk'' := le_of_headIsPending token hp hr'.taken hk'
      have hrest := ih' (hr'.deliver hlq') hfull.of_forget hready' hk'' hf' rfl
      rw [run_deliver he hlq hl' hp]
      rwa [List.append_assoc] at hrest

/-- What the run delivers from each goal it delivers from where it started. -/
theorem Fetches.run_result {n : Nat} {result : List Token → Option Error → Prop}
    (h : Fetches goal full) (hn : ∀ last, goal last → last.queue.length ≤ n)
    (hgoal : ∀ {last : Lexer} {delivered : List Token} {l : Lexer} {fuel : Nat}, goal last →
      Refills delivered l last → (∀ k ∈ l.keys, delivered.length ≤ k.2.tokenNumber) →
      l.queue.length < fuel → result (delivered ++ (run fuel l).1) (run fuel l).2)
    (hr : Refills delivered l full) (hk : ∀ k ∈ l.keys, delivered.length ≤ k.2.tokenNumber)
    (hf : 2 * n < fuel + full.queue.length + delivered.length) :
    result (delivered ++ (run fuel l).1) (run fuel l).2 := by
  induction h generalizing delivered l fuel with
  | done h =>
    have hqueue := congrArg List.length hr.queue_eq
    rw [List.length_append] at hqueue
    have := hn _ h
    exact hgoal h hr hk (by omega)
  | step hl hready hd hq hm hfetches ih =>
    exact run_step hd hq hm ih hr hl hready hk (Nat.mul_le_mul_left 2 (hfetches.length_le hn)) hf

end ScenarioCompiler.Yaml.Lexer
