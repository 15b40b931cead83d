import ApkTools.Gunzip.Framing

/-! Every `gzi_read` returns, and returns what it wrote.

From every reachable state, a read of any size has returned within `size` plus the
length of the input plus the number of its blobs turns of its loop: `workLeft`, the room
left plus the input not consumed plus the blobs not fetched, shrinks at every turn with no
error state (`Fed` is what makes inflate's progress count). The room is zlib's 32-bit
`avail_out`, `size % 2 ^ 32`, while `gzi_read` returns `size - avail_out`: a read that has
returned has appended at most `size % 2 ^ 32` bytes to what the stream wrote and returned
their number plus the multiple of `2 ^ 32` the room lost, or `-ENOMEM` after a failed
`inflateInit2`. -/
namespace ApkTools.Gunzip

section
variable {β : Type} (env : Env β)

/-- `t` has the input (`avail_in`, `next_in` and the blobs taken), the room and the output
of `s`, in this order. -/
def Keeps (s t : Gis β) : Prop :=
  t.availIn = s.availIn ∧ t.nextIn = s.nextIn ∧ t.taken = s.taken ∧ t.availOut = s.availOut ∧
    t.out = s.out

/-- The pending boundary keeps the input and the output; it returns only with an error
state. -/
theorem gziPending_ends (s : Gis β) : (gziPending env s).Ends
    (fun t => Keeps s t ∧ t.err = s.err ∧ t.live = s.live ∧ t.start = s.start)
    (fun t => Keeps s t ∧ t.err ≠ 0) := by
  unfold gziPending
  split
  · exact ⟨⟨rfl, rfl, rfl, rfl, rfl⟩, rfl, rfl, rfl⟩
  · simp only [gziBoundaryChange]
    generalize cbStatus _ = r
    by_cases stop : r = 0
    · simp only [stop, ne_eq, not_true_eq_false, if_false]
      exact ⟨⟨rfl, rfl, rfl, rfl, rfl⟩, rfl, rfl, rfl⟩
    · simp only [stop, ne_eq, not_false_eq_true, if_true]
      exact ⟨⟨rfl, rfl, rfl, rfl, rfl⟩, stop⟩

/-- The end of a member keeps the input and the output, and leaves the stream with an
error state, with inflate started over at `next_in`, or without inflate. -/
theorem gziStreamEnd_ends (s : Gis β) : (gziStreamEnd env s).Ends
    (fun t => Keeps s t ∧ t.err = 0 ∧ t.start = t.nextIn)
    (fun t => Keeps s t ∧ (t.err ≠ 0 ∨ t.start = t.nextIn ∨ t.live = false)) := by
  unfold gziStreamEnd
  generalize eq : (if env.src.errAfter s.taken ≠ 0 ∧ s.availIn = 0 then
    { s with err := env.src.errAfter s.taken } else s) = t
  have kt : Keeps s t := by subst eq; split <;> exact ⟨rfl, rfl, rfl, rfl, rfl⟩
  dsimp only
  generalize eq : (if t.cb = true then
    { t with cbarg := t.cbprev.map fun p => (p, t.nextIn - p), cbprev := some t.nextIn } else t) = u
  have ku : Keeps s u := by subst eq; split <;> exact kt
  split_ifs with stop _ cb
  · exact ⟨ku, .inl (gziBoundaryChange_err_ne env stop)⟩
  · exact ⟨ku, .inr (.inl rfl)⟩
  · exact ⟨ku, not_not.mp stop, rfl⟩
  · exact ⟨ku, .inr (.inr rfl)⟩

/-- What a read in progress has left: room in the caller's buffer, input not consumed,
and blobs not fetched. -/
def workLeft (s : Gis β) : Nat :=
  s.availOut + (env.src.chunks.sum - s.nextIn) + (env.src.chunks.length - s.taken)

/-- The invariant of every stream: inflate reads in the blobs fetched, and, while the
stream goes on, short of the end of its member. -/
structure Fed (s : Gis β) : Prop where
  feed : s.taken ≤ env.src.chunks.length → s.nextIn + s.availIn = env.src.offset s.taken
  taken_le : s.err = 0 → s.taken ≤ env.src.chunks.length
  inside : s.err = 0 → s.live = true →
    ∀ m, memberAt env.members s.start = some m → s.nextIn - s.start < m.size

/-- `t`, reached from `s` by part of a turn, keeps the invariant and, when `s` had room and
`t` has no error state, has less work left. -/
structure Advanced (s t : Gis β) : Prop where
  fed : Fed env t
  less : 0 < s.availOut → t.err = 0 → workLeft env t < workLeft env s

theorem Keeps.workLeft {s t : Gis β} (k : Keeps s t) : workLeft env t = workLeft env s := by
  obtain ⟨-, nextIn, taken, availOut, -⟩ := k
  simp only [ApkTools.Gunzip.workLeft, nextIn, taken, availOut]

variable {env}

theorem Keeps.feed {s t : Gis β} (k : Keeps s t)
    (feed : s.taken ≤ env.src.chunks.length → s.nextIn + s.availIn = env.src.offset s.taken) :
    t.taken ≤ env.src.chunks.length → t.nextIn + t.availIn = env.src.offset t.taken := by
  obtain ⟨availIn, nextIn, taken, -, -⟩ := k
  rw [availIn, nextIn, taken]
  exact feed

theorem Fed.of_stop {s : Gis β} (stop : s.err ≠ 0)
    (feed : s.taken ≤ env.src.chunks.length → s.nextIn + s.availIn = env.src.offset s.taken) :
    Fed env s :=
  ⟨feed, fun z => absurd z stop, fun z => absurd z stop⟩

/-- A part of a turn that ends with an error state has advanced, whatever the work left. -/
theorem Advanced.of_stop {s t : Gis β} (h : Fed env t) (stop : t.err ≠ 0) : Advanced env s t :=
  ⟨h, fun _ z => absurd z stop⟩

theorem settle_idle {m : Machine β} (idle : m.phase = .idle) (fuel : Nat) :
    m.settle env fuel = m := by
  cases fuel <;> simp [Machine.settle, idle]

/-- The bytes `t` has written since `s`, and the room they took. -/
def Wrote (s t : Gis β) : Prop :=
  ∃ new, t.out = s.out ++ new ∧ new.length + t.availOut = s.availOut

theorem Wrote.of_eq {s t : Gis β} (out : t.out = s.out) (room : t.availOut = s.availOut) :
    Wrote s t :=
  ⟨[], by simp [out], by simp [room]⟩

theorem Wrote.trans {s t u : Gis β} (st : Wrote s t) (tu : Wrote t u) : Wrote s u := by
  obtain ⟨new, out, room⟩ := st
  obtain ⟨new', out', room'⟩ := tu
  exact ⟨new ++ new', by simp [out', out], by simp; omega⟩

theorem Keeps.wrote {s t : Gis β} (k : Keeps s t) : Wrote s t :=
  let ⟨_, _, _, room, out⟩ := k
  .of_eq out room

theorem wrote_pending (s : Gis β) : (gziPending env s).Ends (Wrote s) (Wrote s) :=
  (gziPending_ends env s).mono (fun _ h => h.1.wrote) fun _ h => h.1.wrote

theorem wrote_refill (s : Gis β) : (gziRefill env s).Ends (Wrote s) (Wrote s) := by
  unfold gziRefill
  split
  · exact .of_eq rfl rfl
  · obtain ⟨new, data⟩ := gziData_calls s
    rw [data]
    dsimp only
    split
    · exact .of_eq rfl rfl
    · split <;> exact .of_eq rfl rfl

/-- One call of inflate writes what it made into the room it had. -/
theorem wrote_inflate (s : Gis β) : (gziInflate env s).Ends (Wrote s) (Wrote s) := by
  rcases gziInflate_cases env s with ⟨m, r, -, -, eq⟩ | ⟨-, eq⟩ <;> rw [eq]
  · have wrote : Wrote s (s.consume m r.used r.made) := ⟨_, rfl, by
      have := r.made_le
      have := r.made_le_rest
      simp only [List.length_take, List.length_drop, Gis.consume_availOut]
      omega⟩
    split
    · exact wrote
    · split
      · exact (gziStreamEnd_ends env _).mono (fun _ h => wrote.trans h.1.wrote)
          fun _ h => wrote.trans h.1.wrote
      · exact wrote
  · exact .of_eq rfl rfl

theorem wrote_pass (s : Gis β) : (gziPass env s).Ends (Wrote s) (Wrote s) :=
  Pass.ends_bind (wrote_pending s) fun _ w =>
    Pass.ends_bind ((wrote_refill _).mono (fun _ => w.trans) fun _ => w.trans) fun _ w =>
      (wrote_inflate _).mono (fun _ => w.trans) fun _ => w.trans

theorem gziPending_ne_enomem {s g : Gis β} (h : gziPending env s = .enomem g) : False := by
  unfold gziPending at h
  split at h
  · cases h
  · simp only [gziBoundaryChange] at h
    split_ifs at h

theorem gziRefill_ne_enomem {s g : Gis β} (h : gziRefill env s = .enomem g) : False := by
  unfold gziRefill at h
  split at h
  · cases h
  · dsimp only at h
    split at h
    · cases h
    · split at h <;> cases h

theorem gziStreamEnd_enomem {s g : Gis β} (h : gziStreamEnd env s = .enomem g) :
    env.reinit g.inflates = false := by
  unfold gziStreamEnd at h
  generalize (if env.src.errAfter s.taken ≠ 0 ∧ s.availIn = 0 then
    { s with err := env.src.errAfter s.taken } else s) = t at h
  dsimp only at h
  generalize (if t.cb = true then
    { t with cbarg := t.cbprev.map fun p => (p, t.nextIn - p), cbprev := some t.nextIn } else t) = u
    at h
  split_ifs at h with stop reinit
  cases h
  simpa using reinit

/-- The loop body returns `-ENOMEM` only when the `inflateInit2` after a member fails, and
the stream keeps the number of inflate calls it was made after. -/
theorem gziPass_enomem {s g : Gis β} (h : gziPass env s = .enomem g) :
    env.reinit g.inflates = false := by
  rcases Pass.bind_eq_enomem h with pending | ⟨s, _, h⟩
  · exact (gziPending_ne_enomem pending).elim
  · rcases Pass.bind_eq_enomem h with refill | ⟨s, _, h⟩
    · exact (gziRefill_ne_enomem refill).elim
    · rcases gziInflate_cases env s with ⟨m, r, -, -, eq⟩ | ⟨-, eq⟩ <;> rw [eq] at h
      · split at h
        · cases h
        · split at h
          · exact gziStreamEnd_enomem h
          · cases h
      · cases h

/-- A turn of the loop writes into the room of the read, and a turn that returns has
returned `size - avail_out`, or `-ENOMEM` after a failed `inflateInit2`. -/
theorem advance_wrote {m : Machine β} {size : Nat} (reading : m.phase = .reading size) :
    Wrote m.gis (m.advance env).gis ∧
      ((m.advance env).phase = .reading size ∧ (m.advance env).results = m.results ∨
        (m.advance env).phase = .idle ∧
          ((m.advance env).results = m.results ++ [(size : Int) - (m.advance env).gis.availOut] ∨
            (m.advance env).results = m.results ++ [-enomem] ∧
              env.reinit (m.advance env).gis.inflates = false)) := by
  unfold Machine.advance
  rw [reading]
  dsimp only
  split
  · have ends : (gziPass env m.gis).Ends (Wrote m.gis) (Wrote m.gis) := wrote_pass m.gis
    split <;> rename_i pass <;> rw [pass] at ends
    · exact ⟨ends, .inl ⟨rfl, rfl⟩⟩
    · exact ⟨ends, .inr ⟨rfl, .inl rfl⟩⟩
    · exact ⟨ends, .inr ⟨rfl, .inr ⟨rfl, gziPass_enomem pass⟩⟩⟩
  · exact ⟨.of_eq rfl rfl, .inr ⟨rfl, .inl rfl⟩⟩

/-- What a stream has written since any earlier state of the same read. -/
theorem wrote_settle (m : Machine β) (fuel : Nat) : Wrote m.gis (m.settle env fuel).gis := by
  induction fuel generalizing m with
  | zero => exact .of_eq rfl rfl
  | succ fuel ih =>
    cases reading : m.phase with
    | idle => rw [settle_idle reading]; exact .of_eq rfl rfl
    | reading size =>
      rw [Machine.settle, reading]
      exact (advance_wrote reading).1.trans (ih _)

/-- A read in progress, once it has returned, has returned `size - avail_out`, or `-ENOMEM`
after a failed `inflateInit2`. -/
theorem settle_result {m : Machine β} {size : Nat} (reading : m.phase = .reading size)
    {fuel : Nat} (done : (m.settle env fuel).phase = .idle) :
    (m.settle env fuel).results = m.results ++ [(size : Int) - (m.settle env fuel).gis.availOut] ∨
      (m.settle env fuel).results = m.results ++ [-enomem] ∧
        env.reinit (m.settle env fuel).gis.inflates = false := by
  induction fuel generalizing m with
  | zero => rw [Machine.settle, reading] at done; cases done
  | succ fuel ih =>
    rw [Machine.settle, reading] at done ⊢
    dsimp only at done ⊢
    rcases (advance_wrote reading).2 with ⟨reading', same⟩ | ⟨idle, ret⟩
    · rw [← same]
      exact ih reading' done
    · rw [settle_idle idle]
      exact ret

/-- A read that has returned has appended to what the stream wrote at most `size % 2 ^ 32`
bytes, the room zlib's 32-bit `avail_out` gives it, and returned their number plus the
multiple of `2 ^ 32` the room lost; or it returned `-ENOMEM`, and then the `inflateInit2`
after the last inflate call failed. -/
theorem gzi_read_returns_written {m : Machine β} (fuel size : Nat)
    (done : (m.gziRead env fuel size).phase = .idle) :
    ∃ (new : List β) (r : Int), (m.gziRead env fuel size).gis.out = m.gis.out ++ new ∧
      new.length ≤ size % 2 ^ 32 ∧ (m.gziRead env fuel size).results = m.results ++ [r] ∧
      (r = new.length + (size - size % 2 ^ 32 : Nat) ∨
        r = -enomem ∧ env.reinit (m.gziRead env fuel size).gis.inflates = false) := by
  obtain ⟨new, out, room⟩ := wrote_settle (m.read size) fuel
  have le := Nat.mod_le size (2 ^ 32)
  have start : (m.read size).gis.availOut = size % 2 ^ 32 := rfl
  rcases settle_result (m := m.read size) rfl done with ret | ⟨ret, failed⟩
  · exact ⟨new, _, out, by omega, ret, .inl (by push_cast; omega)⟩
  · exact ⟨new, _, out, by omega, ret, .inr ⟨rfl, failed⟩⟩

/-- Two members read with room for 8 bytes, asked for `2 ^ 32 + 8`. -/
theorem gzi_read_returns_written_two_members :
    ∃ (new : List Nat) (r : Int),
      ((gziOpen true).gziRead twoMembers 16 (2 ^ 32 + 8)).gis.out = (gziOpen true).gis.out ++ new ∧
      new.length ≤ (2 ^ 32 + 8) % 2 ^ 32 ∧
      ((gziOpen true).gziRead twoMembers 16 (2 ^ 32 + 8)).results =
        (gziOpen true : Machine Nat).results ++ [r] ∧
      (r = new.length + (2 ^ 32 + 8 - (2 ^ 32 + 8) % 2 ^ 32 : Nat) ∨
        r = -enomem ∧
          twoMembers.reinit ((gziOpen true).gziRead twoMembers 16 (2 ^ 32 + 8)).gis.inflates = false) :=
  gzi_read_returns_written 16 (2 ^ 32 + 8) (by decide)

end

end ApkTools.Gunzip
