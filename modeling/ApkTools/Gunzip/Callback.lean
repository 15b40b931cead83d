import ApkTools.Gunzip.Decoding

/-! How `gzi_read` treats the multipart callback beyond the payloads it passes.

* `reachable_bare`: a stream opened without a callback (as `apk_istream_gunzip` opens it)
  keeps no boundary and makes no DATA call, but its END call is not guarded: it goes
  through the NULL pointer at the end of the stream.
* `gzi_read_zero_only_at_member_end`: a read of positive size returns 0 with no error
  state only where a member ends and a callback is set, as the stream returns there to
  let the boundary wait.
* `gzi_read_ignores_data_answers`: what the callback answers to a DATA call never changes
  the stream, cancellation included. -/

namespace ApkTools.Gunzip

section
variable {β : Type} (env : Env β)

/-- The invariant of a stream without a callback: no boundary is left pending, and the
calls made through the callback pointer are one END call with a NULL blob at most, made
once the error state is set. -/
structure Bare (s : Gis β) : Prop where
  cb : s.cb = false
  idle : s.cbarg = none
  calls : ∀ c ∈ s.calls, c.event = .endOfStream ∧ c.arg = none
  once : s.calls.length ≤ 1
  stopped : s.calls ≠ [] → s.err ≠ 0

theorem Bare.first {s : Gis β} (h : Bare s) (ok : s.err = 0) : s.calls = [] :=
  Classical.byContradiction fun made => h.stopped made ok

/-- The END call of a stream without a callback. -/
theorem bare_end {s : Gis β} (h : Bare s) (first : s.calls = []) (stop : s.err ≠ 0) :
    Bare (gziBoundaryChange env s).2 where
  cb := h.cb
  idle := h.idle
  calls c mem := by
    simp only [gziBoundaryChange, first, List.nil_append, List.mem_singleton] at mem
    simp [mem, stop, h.idle]
  once := by simp [gziBoundaryChange, first]
  stopped _ := gziBoundaryChange_err_ne env stop

theorem bare_refill {s : Gis β} (h : Bare s) (ok : s.err = 0) :
    (gziRefill env s).Ends (fun s => Bare s ∧ s.err = 0) Bare := by
  have data : gziData s = s := by unfold gziData; split <;> simp [h.cb]
  unfold gziRefill
  split
  · exact ⟨h, ok⟩
  · rw [data]
    dsimp only
    split
    · exact ⟨⟨h.cb, h.idle, h.calls, h.once, h.stopped⟩, ok⟩
    · split
      · rename_i broken
        exact ⟨h.cb, h.idle, h.calls, h.once, fun _ => by dsimp only; omega⟩
      · exact bare_end env ⟨h.cb, rfl, h.calls, h.once, fun _ => by dsimp only; decide⟩ (h.first ok)
          (by dsimp only; decide)

theorem bare_inflate {s : Gis β} (h : Bare s) (ok : s.err = 0) :
    (gziInflate env s).Ends Bare Bare := by
  have running : ¬s.err ≠ 0 := not_not.mpr ok
  have nocb : ¬s.cb = true := by simp [h.cb]
  rcases gziInflate_cases env s with ⟨m, r, -, -, eq⟩ | ⟨-, eq⟩ <;> rw [eq]
  · split
    · exact ⟨h.cb, h.idle, h.calls, h.once, fun _ => by simp [eio]⟩
    · split
      · dsimp only [Gis.consume]
        unfold gziStreamEnd
        by_cases zis : env.src.errAfter s.taken ≠ 0 ∧ s.availIn - r.used = 0
        · simp only [if_pos zis, if_neg nocb, if_pos zis.1, Pass.Ends]
          exact bare_end env ⟨h.cb, h.idle, h.calls, h.once, fun _ => zis.1⟩ (h.first ok) zis.1
        · simp only [if_neg zis, if_neg nocb, if_neg running]
          split <;> exact ⟨h.cb, h.idle, h.calls, h.once, h.stopped⟩
      · exact ⟨h.cb, h.idle, h.calls, h.once, h.stopped⟩
  · exact ⟨h.cb, h.idle, h.calls, h.once, fun _ => by simp [eio]⟩

theorem reachable_bare {m : Machine β} (reach : Reachable env false m) : Bare m.gis :=
  reachable_invariant Bare
    ⟨rfl, rfl, fun _ h => (by cases h), Nat.zero_le _, fun z => absurd rfl z⟩
    (fun _ _ h => ⟨h.cb, h.idle, h.calls, h.once, h.stopped⟩)
    (fun s h ok => by
      have pending : gziPending env s = .next s := by simp [gziPending, h.idle]
      simp only [gziPass, pending, Pass.bind]
      exact Pass.ends_bind (bare_refill env h ok) fun _ ⟨h, ok⟩ => bare_inflate env h ok) reach

/-- A stream opened without a callback makes one call through the callback pointer at
most, an END call with a NULL blob. -/
theorem gzi_read_without_callback_calls {m : Machine β} (reach : Reachable env false m) :
    (∀ c ∈ m.gis.calls, c.event = .endOfStream ∧ c.arg = none) ∧ m.gis.calls.length ≤ 1 :=
  let h := reachable_bare env reach
  ⟨h.calls, h.once⟩

/-- One member of 2 bytes that inflates to one byte, in one blob. -/
def oneMember : Env Nat :=
  ⟨[⟨2, [7], true, by decide⟩], ⟨[2], 0, false, by decide, by decide⟩,
    fun _ => greedy, fun _ => true, fun _ _ => 0⟩

theorem gzi_read_without_callback_calls_one_member :
    (∀ c ∈ ((gziOpen false).gziRead oneMember 8 8).gis.calls,
      c.event = .endOfStream ∧ c.arg = none) ∧
      ((gziOpen false).gziRead oneMember 8 8).gis.calls.length ≤ 1 :=
  gzi_read_without_callback_calls oneMember (reachable_gziRead .start rfl 8 8)

/-- A stream opened without a callback, read to the end of its one member: the END call
is made through the callback pointer, which is NULL. -/
theorem gzi_read_without_callback_ends :
    Reachable oneMember false ((gziOpen false).gziRead oneMember 8 8) ∧
      ((gziOpen false).gziRead oneMember 8 8).gis.calls = [⟨.endOfStream, none, 2, 1⟩] :=
  ⟨reachable_gziRead .start rfl 8 8, by decide⟩

/-- Where a pass of the loop body leaves the loop with no error state. -/
def StopsClean (g : Gis β) : Prop := g.cb = true ∧ g.start = g.nextIn ∧ g.made = 0

theorem gziPending_ret {s g : Gis β} (ok : s.err = 0) (h : gziPending env s = .ret g) :
    g.err ≠ 0 := by
  unfold gziPending at h
  split at h
  · cases h
  · simp only [gziBoundaryChange, ok, ne_eq, not_true_eq_false, if_false] at h
    generalize cbStatus _ = r at h
    by_cases stop : r = 0
    · simp [stop] at h
    · simp only [stop, not_false_eq_true, if_true, Pass.ret.injEq] at h
      subst h
      simpa using stop

theorem gziRefill_ret {s g : Gis β} (h : gziRefill env s = .ret g) : g.err ≠ 0 := by
  unfold gziRefill at h
  split at h
  · cases h
  · dsimp only at h
    split at h
    · cases h
    · split at h
      · rename_i broken
        cases h
        dsimp only
        omega
      · cases h
        exact gziBoundaryChange_err_ne env (by dsimp only; decide)

theorem gziStreamEnd_ret {s g : Gis β} (h : gziStreamEnd env s = .ret g) :
    g.err ≠ 0 ∨ StopsClean g := by
  unfold gziStreamEnd at h
  generalize (if env.src.errAfter s.taken ≠ 0 ∧ s.availIn = 0 then
    { s with err := env.src.errAfter s.taken } else s) = t at h
  dsimp only at h
  generalize (if t.cb = true then
    { t with cbarg := t.cbprev.map fun p => (p, t.nextIn - p), cbprev := some t.nextIn } else t) = u
    at h
  split_ifs at h with stop _ cb
  · cases h
    exact .inl (gziBoundaryChange_err_ne env stop)
  · cases h
    exact .inr ⟨cb, rfl, rfl⟩

theorem gziInflate_ret {s g : Gis β} (h : gziInflate env s = .ret g) :
    g.err ≠ 0 ∨ StopsClean g := by
  rcases gziInflate_cases env s with ⟨m, r, -, -, eq⟩ | ⟨-, eq⟩ <;> rw [eq] at h
  · split at h
    · cases h
    · split at h
      · exact gziStreamEnd_ret env h
      · cases h
  · cases h

theorem gziPass_ret {s g : Gis β} (ok : s.err = 0) (h : gziPass env s = .ret g) :
    g.err ≠ 0 ∨ StopsClean g := by
  rcases Pass.bind_eq_ret h with pending | ⟨s, _, h⟩
  · exact .inl (gziPending_ret env ok pending)
  · rcases Pass.bind_eq_ret h with refill | ⟨s, _, h⟩
    · exact .inl (gziRefill_ret env refill)
    · exact gziInflate_ret env h

/-- A read of positive size that returns 0 with no error state has stopped where a member
ends, with a callback set: inflate is about to start on the next member. -/
theorem gzi_read_zero_only_at_member_end {m : Machine β} {size : Nat}
    (reading : m.phase = .reading size) (positive : 0 < size)
    (zero : (m.advance env).results = m.results ++ [0]) (ok : (m.advance env).gis.err = 0) : StopsClean (m.advance env).gis := by
  unfold Machine.advance at zero ok ⊢
  rw [reading] at zero ok ⊢
  dsimp only at zero ok ⊢
  by_cases going : m.gis.availOut ≠ 0 ∧ m.gis.err = 0
  · simp only [if_pos going] at zero ok ⊢
    cases pass : gziPass env m.gis with
    | next g => simp [pass] at zero
    | ret g =>
      simp only [pass] at ok ⊢
      exact (gziPass_ret env going.2 pass).resolve_left (not_not.mpr ok)
    | enomem g => simp [pass, enomem] at zero
  · simp only [if_neg going, List.append_cancel_left_eq, List.cons.injEq, and_true] at zero ok
    exact absurd ⟨by omega, ok⟩ going

/-- Two members in two blobs, the second of which inflates to nothing. -/
def emptyTail : Env Nat :=
  ⟨[⟨3, [1, 2], true, by decide⟩, ⟨2, [], true, by decide⟩],
    ⟨[3, 2], 0, false, by decide, by decide⟩, fun _ => greedy, fun _ => true, fun _ _ => 0⟩

/-- The second read of 8 bytes from `emptyTail`, before its first turn. -/
def emptyTailTurn : Machine Nat := ((gziOpen true).gziRead emptyTail 8 8).read 8

/-- The turn inflates the empty member whole and returns 0 where it ends. -/
theorem gzi_read_zero_only_at_member_end_empty :
    (emptyTailTurn.advance emptyTail).results = emptyTailTurn.results ++ [0] ∧
      StopsClean (emptyTailTurn.advance emptyTail).gis :=
  ⟨by decide, gzi_read_zero_only_at_member_end emptyTail rfl (by decide) (by decide) (by decide)⟩

/-- One member of 3 bytes that inflates to one byte, in blobs of 2 bytes and 1, read a
byte at a time: the first read fills the buffer, and its trailer is left for the
second. -/
def splitTrailer : Env Nat :=
  ⟨[⟨3, [5], true, by decide⟩], ⟨[2, 1], 0, false, by decide, by decide⟩,
    fun _ => greedy, fun _ => true, fun _ _ => 0⟩

/-- Two reads of 1 byte from `splitTrailer`. -/
def splitTrailerRead : Machine Nat :=
  ((gziOpen true).gziRead splitTrailer 8 1).gziRead splitTrailer 8 1

/-- The second read consumes the trailer, makes nothing, and returns 0 with the error
state 0, in a clean world. -/
theorem gzi_read_zero_midstream :
    Clean splitTrailer ∧ Reachable splitTrailer true splitTrailerRead ∧
      splitTrailerRead.results = [1, 0] ∧ splitTrailerRead.gis.err = 0 :=
  ⟨⟨by decide, rfl, fun _ _ => rfl, fun _ => rfl⟩,
    reachable_gziRead (reachable_gziRead .start rfl 8 1) (by decide) 8 1, by decide, by decide⟩

end

/-- Two worlds with the same steps reach the same states. -/
theorem reachable_of_steps {β : Type} {env env' : Env β}
    (same : ∀ m m', Step env m m' → Step env' m m') {cb : Bool} {m : Machine β}
    (reach : Reachable env cb m) : Reachable env' cb m := by
  induction reach with
  | start => exact .start
  | next _ step ih => exact ih.next (same _ _ step)

section
variable {β : Type} (env : Env β) {answer : List Call → Call → Int}
  (agree : ∀ calls c, c.event ≠ .data → answer calls c = env.cb calls c)
include agree

theorem gziBoundaryChange_answers (s : Gis β) :
    gziBoundaryChange { env with cb := answer } s = gziBoundaryChange env s := by
  simp only [gziBoundaryChange]
  rw [agree _ _ (by dsimp only; split <;> decide)]

theorem gziInflate_answers : gziInflate { env with cb := answer } = gziInflate env := by
  funext s
  simp only [gziInflate, gziStreamEnd, gziBoundaryChange_answers env agree]

theorem gziPass_answers (s : Gis β) : gziPass { env with cb := answer } s = gziPass env s := by
  simp only [gziPass, gziPending, gziRefill, gziInflate_answers env agree,
    gziBoundaryChange_answers env agree]

theorem step_answers {m m' : Machine β} :
    Step { env with cb := answer } m m' ↔ Step env m m' := by
  have advance : m.advance { env with cb := answer } = m.advance env := by
    simp only [Machine.advance, gziPass_answers env agree]
  constructor <;> intro step <;> cases step
  · exact .read _ _ ‹_›
  · exact advance ▸ .advance m
  · exact .read _ _ ‹_›
  · exact advance ▸ .advance m

/-- What the callback answers to DATA calls does not change which states a stream can
reach: a DATA answer that asks to cancel is lost. -/
theorem gzi_read_ignores_data_answers {cb : Bool} {m : Machine β} :
    Reachable { env with cb := answer } cb m ↔ Reachable env cb m :=
  ⟨reachable_of_steps fun _ _ => (step_answers env agree).mp,
    reachable_of_steps fun _ _ => (step_answers env agree).mpr⟩

end

/-- One member of 4 bytes in two blobs of 2, with a callback that asks to cancel on
every call. -/
def cancelling : Env Nat :=
  ⟨[⟨4, [1, 2], true, by decide⟩], ⟨[2, 2], 0, false, by decide, by decide⟩,
    fun _ => greedy, fun _ => true, fun _ _ => 1⟩

/-- One read of 8 bytes from `cancelling`. -/
def cancellingRead : Machine Nat := (gziOpen true).gziRead cancelling 8 8

/-- The DATA call of the first read is answered 1, yet the read goes on: inflate consumes
the rest of the member and the error state stays 0. The BOUNDARY call of the next read,
answered the same, cancels the stream. -/
theorem gzi_read_data_cancel_ignored :
    Reachable cancelling true cancellingRead ∧
      cancellingRead.gis.calls = [⟨.data, some (0, 2), 2, 0⟩] ∧
      cancelling.cb [] ⟨.data, some (0, 2), 2, 0⟩ = 1 ∧ cancellingRead.gis.err = 0 ∧
      cancellingRead.gis.nextIn = 4 ∧ cancellingRead.results = [2] ∧
      (cancellingRead.gziRead cancelling 8 8).gis.err = -ecanceled :=
  ⟨reachable_gziRead .start rfl 8 8, by decide, rfl, by decide, by decide, by decide, by decide⟩

end ApkTools.Gunzip
