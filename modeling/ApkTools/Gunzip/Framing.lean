import ApkTools.Gunzip.Model

/-! What a stream with a multipart callback gives the callback. The payloads of its calls
are ranges of the compressed input; `chain` follows them from the start of the input.
`Framed` is the invariant of such a stream, kept by every part of the loop body of
`gzi_read`, and `gzi_read_callback_payloads` reads the callback's view off it: for every
input, chunking, callback and read schedule, the payloads follow each other from the
start of the input, each BOUNDARY or END call closes them at what inflate has consumed,
each BOUNDARY payload ends at a member end, and END comes last, with the error state
set. -/
namespace ApkTools.Gunzip

/-- The end of a run of byte ranges of the input that each start where the one before
ends, the first at `pos`; `none` if one of them does not. -/
def chain : Nat → List (Nat × Nat) → Option Nat
  | pos, [] => some pos
  | pos, (a, l) :: rest => if a = pos then chain (a + l) rest else none

theorem chain_append (pos : Nat) (xs ys : List (Nat × Nat)) :
    chain pos (xs ++ ys) = (chain pos xs).bind fun q => chain q ys := by
  induction xs generalizing pos with
  | nil => rfl
  | cons x xs ih =>
    obtain ⟨a, l⟩ := x
    simp only [List.cons_append, chain]
    split <;> simp [ih]

theorem chain_snoc {pos e a l : Nat} {xs : List (Nat × Nat)} :
    chain pos (xs ++ [(a, l)]) = some e ↔ chain pos xs = some a ∧ e = a + l := by
  rw [chain_append]
  cases chain pos xs with
  | none => simp
  | some q =>
    simp only [Option.some_bind, chain]
    split <;> simp_all [eq_comm]

theorem snoc_eq_split {α : Type} {xs pre post : List α} {x y : α}
    (h : xs ++ [x] = pre ++ y :: post) :
    (xs = pre ∧ x = y ∧ post = []) ∨ ∃ post', post = post' ++ [x] ∧ xs = pre ++ y :: post' := by
  rcases List.eq_nil_or_concat post with rfl | ⟨post', z, rfl⟩
  · obtain ⟨rfl, same⟩ := List.append_inj' h rfl
    exact .inl ⟨rfl, List.singleton_inj.mp same, rfl⟩
  · rw [List.concat_eq_append] at h ⊢
    have shape : pre ++ y :: (post' ++ [z]) = (pre ++ y :: post') ++ [z] := by simp
    obtain ⟨rfl, same⟩ := List.append_inj' (h.trans shape) rfl
    exact .inr ⟨post', by rw [List.singleton_inj.mp same], rfl⟩

section
variable {β : Type}

/-- What the calls made give the callback: each BOUNDARY or END call closes a chain of
payloads from the start of the input to what inflate had consumed, each BOUNDARY payload
ends where a member ends, and an END call is made with the error state set and is the
last call. -/
structure Logged (ms : List (Member β)) (calls : List Call) : Prop where
  settled : ∀ pre c post, calls = pre ++ c :: post → c.event ≠ .data →
    chain 0 ((pre ++ [c]).filterMap Call.arg) = some c.consumed
  boundary : ∀ c ∈ calls, c.event = .boundary → ∃ a ∈ c.arg, MemberEnd ms (a.1 + a.2)
  last : ∀ pre c post, calls = pre ++ c :: post → c.event = .endOfStream → c.err ≠ 0 ∧ post = []

theorem Logged.nil (ms : List (Member β)) : Logged ms [] :=
  ⟨fun _ _ _ h => by simp at h, fun _ h => (by cases h), fun _ _ _ h => by simp at h⟩

theorem Logged.snoc {ms : List (Member β)} {calls : List Call} {c : Call} (h : Logged ms calls)
    (noEnd : ∀ d ∈ calls, d.event ≠ .endOfStream)
    (settled : c.event ≠ .data → chain 0 ((calls ++ [c]).filterMap Call.arg) = some c.consumed)
    (boundary : c.event = .boundary → ∃ a ∈ c.arg, MemberEnd ms (a.1 + a.2))
    (last : c.event = .endOfStream → c.err ≠ 0) : Logged ms (calls ++ [c]) where
  settled pre d post split ev := by
    obtain ⟨rfl, rfl, rfl⟩ | ⟨post', rfl, rfl⟩ := snoc_eq_split split
    · exact settled ev
    · exact h.settled pre d post' rfl ev
  boundary d mem ev := by
    rcases List.mem_append.mp mem with mem | mem
    · exact h.boundary d mem ev
    · rw [List.mem_singleton.mp mem] at ev ⊢
      exact boundary ev
  last pre d post split ev := by
    obtain ⟨rfl, rfl, rfl⟩ | ⟨post', rfl, rfl⟩ := snoc_eq_split split
    · exact ⟨last ev, rfl⟩
    · exact absurd ev (noEnd d (by simp))

/-- The invariant of a stream with a callback: how far inflate has read, where its member
starts, the boundary that waits for the next read, and the calls made. -/
structure Framed (env : Env β) (s : Gis β) : Prop where
  cb : s.cb = true
  feed : s.taken ≤ env.src.chunks.length → s.nextIn + s.availIn = env.src.offset s.taken
  start_le : s.start ≤ s.nextIn
  start : MemberStart env.members s.start
  prev_le : ∀ p ∈ s.cbprev, p ≤ s.nextIn
  prev_none : s.cbprev = none → s.availIn = 0 ∨ s.err ≠ 0
  pending : s.err = 0 →
    chain 0 (s.calls.filterMap Call.arg ++ s.cbarg.toList) = some (s.cbprev.getD s.nextIn)
  pending_end : s.err = 0 → ∀ a ∈ s.cbarg, a.1 + a.2 = s.nextIn ∧ MemberEnd env.members s.nextIn
  payloads : ∃ e, chain 0 (s.calls.filterMap Call.arg) = some e ∧ e ≤ s.nextIn
  logged : Logged env.members s.calls
  stopped : ∀ c ∈ s.calls, c.event = .endOfStream → s.err ≠ 0

variable {env : Env β}

theorem framed_open : Framed env (gziOpen (β := β) true).gis where
  cb := rfl
  feed _ := rfl
  start_le := Nat.le_refl _
  start := ⟨[], env.members, rfl, rfl⟩
  prev_le _ h := by cases h
  prev_none _ := .inl rfl
  pending _ := rfl
  pending_end _ _ h := by cases h
  payloads := ⟨0, rfl, Nat.le_refl _⟩
  logged := .nil _
  stopped _ h := by cases h

theorem framed_room {s : Gis β} (h : Framed env s) (n : Nat) :
    Framed env { s with availOut := n } :=
  ⟨h.cb, h.feed, h.start_le, h.start, h.prev_le, h.prev_none, h.pending, h.pending_end,
    h.payloads, h.logged, h.stopped⟩

@[simp] theorem filterMap_arg_singleton (c : Call) : [c].filterMap Call.arg = c.arg.toList := by
  cases h : c.arg <;> simp [h]

theorem no_end {s : Gis β} (h : Framed env s) (ok : s.err = 0) :
    ∀ c ∈ s.calls, c.event ≠ .endOfStream :=
  fun c mem ev => h.stopped c mem ev ok

/-- Once the stream has an error state, the loop never runs again; what is left to keep
is where inflate stopped and the payloads given so far. -/
theorem Framed.of_stop {s : Gis β} (stop : s.err ≠ 0) (cb : s.cb = true)
    (feed : s.taken ≤ env.src.chunks.length → s.nextIn + s.availIn = env.src.offset s.taken)
    (start_le : s.start ≤ s.nextIn) (start : MemberStart env.members s.start)
    (prev_le : ∀ p ∈ s.cbprev, p ≤ s.nextIn)
    (payloads : ∃ e, chain 0 (s.calls.filterMap Call.arg) = some e ∧ e ≤ s.nextIn)
    (logged : Logged env.members s.calls) : Framed env s :=
  ⟨cb, feed, start_le, start, prev_le, fun _ => .inr stop, fun z => absurd z stop,
    fun z => absurd z stop, payloads, logged, fun _ _ _ => stop⟩

/-- An END call keeps the invariant when its payload closes the chain at what inflate
has consumed. -/
theorem framed_end {s : Gis β} (h : Framed env s) (stop : s.err ≠ 0)
    (first : ∀ c ∈ s.calls, c.event ≠ .endOfStream)
    (closes : chain 0 (s.calls.filterMap Call.arg ++ s.cbarg.toList) = some s.nextIn) :
    Framed env (gziBoundaryChange env s).2 :=
  .of_stop (gziBoundaryChange_err_ne env stop) h.cb h.feed h.start_le h.start h.prev_le
    ⟨s.nextIn, by simpa [gziBoundaryChange] using closes, Nat.le_refl _⟩
    (h.logged.snoc first (fun _ => by simpa [gziBoundaryChange, stop] using closes)
      (by simp [stop]) (fun _ => by simpa using stop))

/-- The boundary left by the last member end is delivered before anything else. -/
theorem framed_pending {s : Gis β} (h : Framed env s) (ok : s.err = 0) :
    (gziPending env s).Ends (fun s => Framed env s ∧ s.err = 0 ∧ s.cbarg = none) (Framed env) := by
  unfold gziPending
  split
  · exact ⟨h, ok, ‹_›⟩
  · rename_i a pend
    obtain ⟨ends, member⟩ := h.pending_end ok a pend
    have chained := h.pending ok
    simp only [pend, Option.toList_some] at chained
    have closes : chain 0 (s.calls.filterMap Call.arg ++ [a]) = some s.nextIn := by
      rw [chained, (chain_snoc.mp chained).2, ends]
    have first := no_end h ok
    have boundary : ∃ x ∈ some a, MemberEnd env.members (x.1 + x.2) := ⟨a, rfl, ends ▸ member⟩
    have logged : Logged env.members (s.calls ++ [⟨.boundary, some a, s.nextIn, 0⟩]) :=
      h.logged.snoc first (fun _ => by simpa using closes) (fun _ => boundary)
        (fun ev => by cases ev)
    have payloads :
        chain 0 ((s.calls ++ [(⟨.boundary, some a, s.nextIn, 0⟩ : Call)]).filterMap Call.arg) =
          some s.nextIn := by simpa using closes
    simp only [gziBoundaryChange, ok, pend, ne_eq, not_true_eq_false, if_false]
    generalize cbStatus _ = r
    by_cases stop : r = 0
    · simp only [stop, ne_eq, not_true_eq_false, if_false, Pass.Ends, and_true]
      refine ⟨h.cb, h.feed, h.start_le, h.start, h.prev_le,
        fun hp => (h.prev_none hp).imp_right fun z => absurd ok z, fun _ => (by simp [chained]),
        fun _ _ h => (by cases h), ⟨s.nextIn, payloads, Nat.le_refl _⟩, logged,
        List.forall_mem_append.mpr ⟨fun c mem ev => absurd ev (first c mem), by simp⟩⟩
    · simp only [stop, ne_eq, not_false_eq_true, if_true, Pass.Ends]
      exact .of_stop stop h.cb h.feed h.start_le h.start h.prev_le
        ⟨s.nextIn, payloads, Nat.le_refl _⟩ logged

/-- The DATA call made before a new blob is fetched carries the rest of the blob before. -/
theorem framed_data {s : Gis β} (h : Framed env s) (ok : s.err = 0) (idle : s.cbarg = none) :
    ∃ new : List Call, gziData s = { s with calls := s.calls ++ new } ∧
      chain 0 ((s.calls ++ new).filterMap Call.arg) = some s.nextIn ∧
      Logged env.members (s.calls ++ new) ∧ ∀ c ∈ new, c.event = .data := by
  have chained := h.pending ok
  simp only [idle, Option.toList_none, List.append_nil] at chained
  unfold gziData
  split
  · rename_i p prev
    have le := h.prev_le p prev
    rw [prev, Option.getD_some] at chained
    split
    · refine ⟨[⟨.data, some (p, s.nextIn - p), s.nextIn, s.err⟩], rfl, ?_,
        h.logged.snoc (no_end h ok) (fun ev => absurd rfl ev) (fun ev => by cases ev)
          (fun ev => by cases ev), by simp⟩
      simp only [List.filterMap_append, filterMap_arg_singleton, Option.toList_some]
      exact chain_snoc.mpr ⟨chained, by omega⟩
    · rename_i stay
      have same : p = s.nextIn := by simp only [h.cb, true_and, not_lt] at stay; omega
      exact ⟨[], by simp, by simpa [same] using chained, by simpa using h.logged, by simp⟩
  · rename_i prev
    exact ⟨[], by simp, by simpa [prev] using chained, by simpa using h.logged, by simp⟩

/-- Fetching a blob: the next one starts where inflate stopped, and the end of the
stream underneath is reported with an END call. -/
theorem framed_refill {s : Gis β} (h : Framed env s) (ok : s.err = 0) (idle : s.cbarg = none) :
    (gziRefill env s).Ends (fun s => Framed env s ∧ s.err = 0 ∧ s.cbarg = none ∧ s.cbprev.isSome)
      (Framed env) := by
  unfold gziRefill
  split
  · rename_i has
    refine ⟨h, ok, idle, ?_⟩
    cases hp : s.cbprev with
    | none => exact absurd (h.prev_none hp) (by simp [has, ok])
    | some p => rfl
  · rename_i empty
    simp only [ne_eq, not_not] at empty
    obtain ⟨new, data, chained, logged, onlyData⟩ := framed_data h ok idle
    have first : ∀ c ∈ s.calls ++ new, c.event ≠ .endOfStream :=
      List.forall_mem_append.mpr ⟨no_end h ok, fun c mem => by simp [onlyData c mem]⟩
    rw [data]
    dsimp only
    split
    · rename_i pos len got
      obtain ⟨lt, rfl, next, -⟩ := Source.getAll_eq_chunk got
      have here : env.src.offset s.taken = s.nextIn := by have := h.feed lt.le; omega
      refine ⟨⟨h.cb, fun _ => next.symm, here ▸ h.start_le, h.start, fun _ hp => (by cases hp; rfl),
        fun hp => (by cases hp), fun _ => (by simpa [here, idle] using chained),
        fun _ _ hp => (by simp [idle] at hp), ⟨_, chained, here.symm.le⟩, logged,
        fun c mem ev => absurd ev (first c mem)⟩, ok, idle, rfl⟩
    · rename_i len got
      obtain ⟨past, rfl⟩ := Source.getAll_eq_done got
      have feed : s.taken + 1 ≤ env.src.chunks.length → False := by omega
      split
      · rename_i broken
        exact .of_stop (by simp; omega) h.cb (fun z => (feed z).elim) h.start_le h.start
          (fun _ hp => by cases hp) ⟨_, chained, Nat.le_refl _⟩ logged
      · exact framed_end (.of_stop (by simp) h.cb (fun z => (feed z).elim) h.start_le h.start
          (fun _ hp => by cases hp) ⟨_, chained, Nat.le_refl _⟩ logged) (by simp) first
          (by simpa using chained)

/-- At the end of a member: END at once if the stream underneath has ended with it,
otherwise the boundary is kept for the next read and inflate starts on the next member. -/
theorem framed_streamEnd {s : Gis β} (h : Framed env s) (ok : s.err = 0) (idle : s.cbarg = none)
    {p : Nat} (prev : s.cbprev = some p) {pre post : List (Member β)} {m : Member β}
    (split : env.members = pre ++ m :: post) (ends : s.nextIn = totalSize pre + m.size) :
    (gziStreamEnd env s).Ends (Framed env) (Framed env) := by
  have member : MemberEnd env.members s.nextIn := ⟨pre, m, post, split, ends⟩
  have le := h.prev_le p prev
  have chained : chain 0 (s.calls.filterMap Call.arg) = some p := by
    simpa [idle, prev] using h.pending ok
  have closes : chain 0 (s.calls.filterMap Call.arg ++ [(p, s.nextIn - p)]) = some s.nextIn :=
    chain_snoc.mpr ⟨chained, by omega⟩
  have first := no_end h ok
  have running : ¬s.err ≠ 0 := not_not.mpr ok
  unfold gziStreamEnd
  by_cases zis : env.src.errAfter s.taken ≠ 0 ∧ s.availIn = 0
  · simp only [if_pos zis, if_pos h.cb, if_pos zis.1, prev, Option.map_some', Pass.Ends]
    exact framed_end (.of_stop zis.1 h.cb h.feed h.start_le h.start (fun _ hq => by cases hq; rfl)
      ⟨p, chained, le⟩ h.logged) zis.1 first (by simpa using closes)
  · simp only [if_neg zis, if_pos h.cb, prev, Option.map_some', if_neg running]
    split <;> refine ⟨h.cb, h.feed, ?_, ?_, fun _ hq => (by cases hq; rfl), fun hn => (by cases hn),
      fun _ => (by simpa using closes),
      fun _ _ ha => (by cases ha; exact ⟨Nat.add_sub_cancel' le, member⟩), ⟨p, chained, le⟩,
      h.logged, h.stopped⟩
    · exact Nat.le_refl _
    · exact ends ▸ memberEnd_start split
    · exact h.start_le
    · exact h.start

/-- One call of inflate: it consumes input of the member at `start`, and at the member's
end the stream moves to the next. -/
theorem framed_inflate {s : Gis β} (h : Framed env s) (ok : s.err = 0) (idle : s.cbarg = none)
    (prev : s.cbprev.isSome) : (gziInflate env s).Ends (Framed env) (Framed env) := by
  obtain ⟨p, hp⟩ := Option.isSome_iff_exists.mp prev
  rcases gziInflate_cases env s with ⟨m, r, -, found, eq⟩ | ⟨-, eq⟩ <;> rw [eq]
  · obtain ⟨pre, post, split, start⟩ := memberAt_start h.start found
    have used := r.used_le
    have consumed : Framed env (s.consume m r.used r.made) := by
      obtain ⟨e, he, le⟩ := h.payloads
      exact ⟨h.cb, fun t => (by have := h.feed t; dsimp only [Gis.consume]; omega),
        (by dsimp only [Gis.consume]; have := h.start_le; omega), h.start,
        fun q hq => (by have := h.prev_le q hq; dsimp only [Gis.consume]; omega),
        fun hn => (by simp [hp] at hn), fun _ => (by simpa [hp] using h.pending ok),
        fun _ _ hn => (by simp [idle] at hn), ⟨e, he, by dsimp only [Gis.consume]; omega⟩,
        h.logged, h.stopped⟩
    split
    · exact .of_stop (by simp [eio]) consumed.cb consumed.feed consumed.start_le consumed.start
        consumed.prev_le consumed.payloads consumed.logged
    · split
      · exact framed_streamEnd consumed ok idle hp split
          (by dsimp only [Gis.consume]; have := h.start_le; omega)
      · exact consumed
  · exact .of_stop (by simp [eio]) h.cb h.feed h.start_le h.start h.prev_le h.payloads h.logged

theorem framed_pass {s : Gis β} (h : Framed env s) (ok : s.err = 0) :
    (gziPass env s).Ends (Framed env) (Framed env) :=
  Pass.ends_bind (framed_pending h ok) fun _ ⟨h, ok, idle⟩ =>
    Pass.ends_bind (framed_refill h ok idle) fun _ ⟨h, ok, idle, prev⟩ =>
      framed_inflate h ok idle prev

theorem reachable_framed {m : Machine β} (reach : Reachable env true m) : Framed env m.gis :=
  reachable_invariant (Framed env) framed_open (fun _ n h => framed_room h n)
    (fun _ h ok => framed_pass h ok) reach

/-- What a stream with a callback gives the callback, whatever the input, its chunks, the
callback's answers and the sizes read: payloads that follow each other from the start of
the input and never pass what inflate consumed; at each BOUNDARY or END call, payloads
that cover exactly what inflate had consumed; BOUNDARY payloads that end where a member
ends; and an END call made with the error state set, as the last call. -/
theorem gzi_read_callback_payloads {m : Machine β} (reach : Reachable env true m) :
    (∃ e, chain 0 (m.gis.calls.filterMap Call.arg) = some e ∧ e ≤ m.gis.nextIn) ∧
    (∀ pre c post, m.gis.calls = pre ++ c :: post → c.event ≠ .data →
      chain 0 ((pre ++ [c]).filterMap Call.arg) = some c.consumed) ∧
    (∀ c ∈ m.gis.calls, c.event = .boundary →
      ∃ a ∈ c.arg, MemberEnd env.members (a.1 + a.2)) ∧
    (∀ pre c post, m.gis.calls = pre ++ c :: post → c.event = .endOfStream →
      c.err ≠ 0 ∧ post = []) :=
  let h := reachable_framed reach
  ⟨h.payloads, h.logged.settled, h.logged.boundary, h.logged.last⟩

end

/-- Two members of 3 and 2 bytes in blobs of 2 and 3 bytes, read 8 bytes at a time. -/
def twoMembers : Env Nat :=
  ⟨[⟨3, [1, 2], true, by decide⟩, ⟨2, [3], true, by decide⟩],
    ⟨[2, 3], 0, false, by decide, by decide⟩, fun _ => greedy, fun _ => true, fun _ _ => 0⟩

/-- Three reads of 8 bytes from `twoMembers`. -/
def twoMembersRead : Machine Nat :=
  (((gziOpen true).gziRead twoMembers 8 8).gziRead twoMembers 8 8).gziRead twoMembers 8 8

theorem reachable_twoMembersRead : Reachable twoMembers true twoMembersRead := by
  have first : Reachable twoMembers true ((gziOpen true).gziRead twoMembers 8 8) :=
    reachable_gziRead .start rfl 8 8
  exact reachable_gziRead (reachable_gziRead first (by decide) 8 8) (by decide) 8 8

theorem gzi_read_callback_payloads_two_members :
    twoMembersRead.gis.calls = [⟨.data, some (0, 2), 2, 0⟩, ⟨.boundary, some (2, 1), 3, 0⟩,
        ⟨.boundary, some (3, 2), 5, 0⟩, ⟨.endOfStream, none, 5, 1⟩] ∧
      (∃ e, chain 0 (twoMembersRead.gis.calls.filterMap Call.arg) = some e ∧
        e ≤ twoMembersRead.gis.nextIn) ∧
      (∀ pre c post, twoMembersRead.gis.calls = pre ++ c :: post → c.event ≠ .data →
        chain 0 ((pre ++ [c]).filterMap Call.arg) = some c.consumed) ∧
      (∀ c ∈ twoMembersRead.gis.calls, c.event = .boundary →
        ∃ a ∈ c.arg, MemberEnd twoMembers.members (a.1 + a.2)) ∧
      (∀ pre c post, twoMembersRead.gis.calls = pre ++ c :: post → c.event = .endOfStream →
        c.err ≠ 0 ∧ post = []) :=
  ⟨by decide, gzi_read_callback_payloads reachable_twoMembersRead⟩

end ApkTools.Gunzip
