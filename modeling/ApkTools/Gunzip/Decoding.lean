import ApkTools.Gunzip.Returns

/-! What a gunzip stream writes when nothing fails. In a clean world (`Clean`: every member
is gzip data, the stream underneath ends without error, the callback returns 0 and
`inflateInit2` succeeds) over an input no longer than its members, `Decoded` holds in
every reachable state: inflate stands at a member start with every earlier member
written. Over complete members (`gzi_read_inflates_members`) the bytes written are a
prefix of the members' data and the stream ends with error state 1 after all of it;
over a member cut short (`gzi_read_truncated_members`) the stream ends the same way, with
error state 1: every read with room either ends the stream or lowers `progressLeft`, the
input, blobs and data it has left, so enough reads of any sizes end it. -/
namespace ApkTools.Gunzip

section
variable {β : Type}

/-- A world in which nothing fails: every member is gzip data, the stream underneath
ends without error, the callback returns 0 and `inflateInit2` succeeds. -/
structure Clean (env : Env β) : Prop where
  valid : ∀ m ∈ env.members, m.valid = true
  fin : env.src.fin = 0
  quiet : ∀ calls c, env.cb calls c = 0
  reinit : ∀ n, env.reinit n = true

/-- Where inflate stands in the members, with what it has written: inside the member `m`
that starts at `start`, every member before it written and as much of `m` as inflate
made, all of it once all of `m`'s input is consumed; or past the last member with every
member written. -/
def Cursor (ms : List (Member β)) (start next made : Nat) (out : List β) : Prop :=
  (∃ pre m post, ms = pre ++ m :: post ∧ start = totalSize pre ∧ start ≤ next ∧
    next - start ≤ m.size ∧ out = inflated pre ++ m.data.take made ∧
    (next - start = m.size → m.data.length ≤ made)) ∨
  (start = totalSize ms ∧ next = start ∧ out = inflated ms)

theorem Cursor.within {ms : List (Member β)} {start next made : Nat} {out : List β}
    (h : Cursor ms start next made out) : out <+: inflated ms := by
  rcases h with ⟨pre, m, post, rfl, -, -, -, rfl, -⟩ | ⟨-, -, rfl⟩
  · simpa using (List.take_prefix made m.data).trans (List.prefix_append _ _)
  · exact List.prefix_refl _

/-- Once inflate has read as far as the members reach, all of their data is written. -/
theorem Cursor.whole {ms : List (Member β)} {start next made : Nat} {out : List β}
    (h : Cursor ms start next made out) (far : totalSize ms ≤ next) : out = inflated ms := by
  rcases h with ⟨pre, m, post, rfl, rfl, le, inside, rfl, full⟩ | ⟨-, -, rfl⟩
  · have sizes : totalSize post = 0 := by simp at far; omega
    have last : post = [] := by
      cases post with
      | nil => rfl
      | cons n post => have := n.size_pos; simp at sizes; omega
    subst last
    simp at far
    simp [List.take_of_length_le (full (by omega))]
  · rfl

/-- The invariant of a stream in a clean world over an input no longer than its members. -/
structure Decoded (env : Env β) (s : Gis β) : Prop where
  feed : s.taken ≤ env.src.chunks.length → s.nextIn + s.availIn = env.src.offset s.taken
  taken_le : s.err = 0 → s.taken ≤ env.src.chunks.length
  live : s.live = true
  err : s.err = 0 ∨ s.err = 1
  ended : s.err ≠ 0 → s.nextIn = env.src.chunks.sum
  cursor : Cursor env.members s.start s.nextIn s.made s.out

variable {env : Env β}

theorem gziBoundaryChange_quiet (clean : Clean env) (s : Gis β) :
    gziBoundaryChange env s =
      (0, { s with calls := s.calls ++ [⟨if s.err ≠ 0 then .endOfStream else .boundary, s.cbarg,
        s.nextIn, s.err⟩] }) := by
  simp [gziBoundaryChange, clean.quiet, cbStatus]

/-- Once every chunk is taken and used up, inflate has read the whole input. -/
theorem Decoded.fed_all {s : Gis β} (h : Decoded env s) (ok : s.err = 0)
    (past : env.src.chunks.length ≤ s.taken) (drained : s.availIn = 0) :
    s.nextIn = env.src.chunks.sum := by
  have := h.feed (h.taken_le ok)
  rw [← env.src.offset_length, ← Nat.le_antisymm (h.taken_le ok) past]
  omega

theorem decoded_open {cb : Bool} : Decoded env (gziOpen (β := β) cb).gis where
  feed _ := rfl
  taken_le _ := Nat.zero_le _
  live := rfl
  err := .inl rfl
  ended z := absurd rfl z
  cursor := by
    cases h : env.members with
    | nil => exact .inr ⟨rfl, rfl, rfl⟩
    | cons m ms =>
      have := m.size_pos
      exact .inl ⟨[], m, ms, rfl, rfl, Nat.le_refl _, Nat.zero_le _, rfl,
        by intro z; dsimp [gziOpen] at z; omega⟩

theorem decoded_room {s : Gis β} (h : Decoded env s) (n : Nat) :
    Decoded env { s with availOut := n } :=
  ⟨h.feed, h.taken_le, h.live, h.err, h.ended, h.cursor⟩

theorem decoded_pending (clean : Clean env) {s : Gis β} (h : Decoded env s) (ok : s.err = 0) :
    (gziPending env s).Ends (fun s => Decoded env s ∧ s.err = 0) (Decoded env) := by
  unfold gziPending
  split
  · exact ⟨h, ok⟩
  · simp only [gziBoundaryChange_quiet clean, ne_eq, not_true_eq_false, if_false, Pass.Ends]
    exact ⟨⟨h.feed, h.taken_le, h.live, h.err, h.ended, h.cursor⟩, ok⟩

theorem decoded_refill (clean : Clean env) {s : Gis β} (h : Decoded env s) (ok : s.err = 0) :
    (gziRefill env s).Ends (fun s => Decoded env s ∧ s.err = 0 ∧ 0 < s.availIn)
      (Decoded env) := by
  unfold gziRefill
  split
  · exact ⟨h, ok, Nat.pos_of_ne_zero ‹_›⟩
  · rename_i empty
    simp only [ne_eq, not_not] at empty
    obtain ⟨new, data⟩ := gziData_calls s
    rw [data]
    dsimp only
    split
    · rename_i pos len got
      obtain ⟨lt, rfl, next, pos⟩ := Source.getAll_eq_chunk got
      have here : env.src.offset s.taken = s.nextIn := by have := h.feed lt.le; omega
      exact ⟨⟨fun _ => next.symm, fun _ => lt, h.live, h.err, fun z => absurd ok z,
        here ▸ h.cursor⟩, ok, pos⟩
    · rename_i len got
      obtain ⟨past, rfl⟩ := Source.getAll_eq_done got
      have ended := h.fed_all ok past empty
      simp only [clean.fin, lt_irrefl, if_false, gziBoundaryChange_quiet clean, Pass.Ends]
      exact ⟨fun z => absurd z (by dsimp only; omega), fun z => absurd z (by dsimp only; decide),
        h.live, .inr rfl, fun _ => ended, h.cursor⟩

/-- At the end of a member whose data is all written: the stream ends cleanly if the
stream underneath has ended with it, and otherwise inflate starts on the next member. -/
theorem decoded_streamEnd (clean : Clean env) {s : Gis β} (h : Decoded env s) (ok : s.err = 0)
    {pre post : List (Member β)} {m : Member β} (split : env.members = pre ++ m :: post)
    (ends : s.nextIn = totalSize pre + m.size) (out : s.out = inflated pre ++ m.data) :
    (gziStreamEnd env s).Ends (Decoded env) (Decoded env) := by
  have next : Cursor env.members s.nextIn s.nextIn 0 s.out := by
    cases post with
    | nil => exact .inr ⟨by simp [split, ends], rfl, by simp [split, out]⟩
    | cons m' post =>
      have := m'.size_pos
      exact .inl ⟨pre ++ [m], m', post, by simp [split], by simp [ends], Nat.le_refl _, by simp,
        by simp [out], by omega⟩
  unfold gziStreamEnd
  by_cases zis : env.src.errAfter s.taken ≠ 0 ∧ s.availIn = 0
  · obtain ⟨past, endErr⟩ := Source.errAfter_ne_zero zis.1
    have one : env.src.errAfter s.taken = 1 := by simp [endErr, Source.endErr, clean.fin]
    have ended := h.fed_all ok past zis.2
    simp only [if_pos zis]
    split <;> simp only [zis.1, ne_eq, not_false_eq_true, if_true, gziBoundaryChange_quiet clean,
      Pass.Ends] <;>
      exact ⟨h.feed, fun _ => h.taken_le ok, h.live, .inr one, fun _ => ended, h.cursor⟩
  · have running : ¬s.err ≠ 0 := not_not.mpr ok
    simp only [if_neg zis]
    cases hcb : s.cb <;> simp only [hcb, if_neg running, clean.reinit, if_true, Bool.false_eq_true,
      if_false, Pass.Ends] <;>
      exact ⟨h.feed, h.taken_le, h.live, h.err, h.ended, next⟩

/-- One call of inflate writes the next bytes of the member at `start`. -/
theorem decoded_inflate (clean : Clean env) (short : env.src.chunks.sum ≤ totalSize env.members)
    {s : Gis β} (h : Decoded env s) (ok : s.err = 0) (has : 0 < s.availIn) :
    (gziInflate env s).Ends (Decoded env) (Decoded env) := by
  have fed : s.nextIn + s.availIn ≤ env.src.chunks.sum :=
    h.feed (h.taken_le ok) ▸ env.src.offset_le _
  rcases h.cursor with ⟨pre, m, post, split, start, le, inside, out, full⟩ | ⟨start, next, -⟩
  · have found : memberAt env.members s.start = some m := by
      rw [split, start, memberAt_append]; rfl
    obtain ⟨m', r, -, found', eq⟩ :=
      (gziInflate_cases env s).resolve_right fun ⟨other, _⟩ => other m h.live found
    rw [found] at found'
    cases found'
    rw [eq]
    have fail : r.fail = false := r.fail_valid (clean.valid m (by simp [split]))
    have used := r.used_le
    have rest := r.used_le_rest
    have full' : s.nextIn - s.start + r.used = m.size → m.data.length ≤ s.made + r.made := by
      intro z
      rcases Nat.eq_zero_or_pos r.used with zero | pos
      · have := full (by omega)
        omega
      · exact r.trailer pos z
    have out' : s.out ++ (m.data.drop s.made).take r.made =
        inflated pre ++ m.data.take (s.made + r.made) := by
      rw [out, List.append_assoc, List.take_add]
    have consumed : Decoded env (s.consume m r.used r.made) :=
      ⟨fun t => by dsimp only [Gis.consume]; have := h.feed t; omega, h.taken_le, h.live, h.err,
        fun z => absurd ok z,
        .inl ⟨pre, m, post, split, start, by dsimp only [Gis.consume]; omega,
          by dsimp only [Gis.consume]; omega, out',
          fun z => full' (by dsimp only [Gis.consume] at z; omega)⟩⟩
    simp only [fail, Bool.false_eq_true, if_false]
    split
    · rename_i z
      exact decoded_streamEnd clean consumed ok split (by dsimp only [Gis.consume]; omega)
        (by dsimp only [Gis.consume]; rw [out', List.take_of_length_le (full' z)])
    · exact consumed
  · omega

theorem decoded_pass (clean : Clean env) (short : env.src.chunks.sum ≤ totalSize env.members)
    {s : Gis β} (h : Decoded env s) (ok : s.err = 0) :
    (gziPass env s).Ends (Decoded env) (Decoded env) :=
  Pass.ends_bind (decoded_pending clean h ok) fun _ ⟨h, ok⟩ =>
    Pass.ends_bind (decoded_refill clean h ok) fun _ ⟨h, ok, has⟩ =>
      decoded_inflate clean short h ok has

theorem reachable_decoded (clean : Clean env) (short : env.src.chunks.sum ≤ totalSize env.members)
    {cb : Bool} {m : Machine β} (reach : Reachable env cb m) : Decoded env m.gis :=
  reachable_invariant (Decoded env) decoded_open (fun _ n h => decoded_room h n)
    (fun _ h ok => decoded_pass clean short h ok) reach

/-- Over complete members in a clean world, whatever the chunks and the sizes read: what
the stream has written is a prefix of the members' data, and once the stream has an error
state it is 1, the clean end, with all of the data written. -/
theorem gzi_read_inflates_members (clean : Clean env)
    (complete : env.src.chunks.sum = totalSize env.members) {cb : Bool} {m : Machine β}
    (reach : Reachable env cb m) :
    m.gis.out <+: inflated env.members ∧
      (m.gis.err ≠ 0 → m.gis.err = 1 ∧ m.gis.out = inflated env.members) :=
  let h := reachable_decoded clean complete.le reach
  ⟨h.cursor.within, fun stop =>
    ⟨h.err.resolve_left stop, h.cursor.whole (h.ended stop ▸ complete.ge)⟩⟩

section Reads
variable {cb : Bool}

end Reads

end

theorem twoMembers_clean : Clean twoMembers :=
  ⟨by decide, rfl, fun _ _ => rfl, fun _ => rfl⟩

theorem gzi_read_inflates_members_two_members :
    twoMembersRead.gis.err = 1 ∧ twoMembersRead.gis.out = [1, 2, 3] ∧
      (twoMembersRead.gis.out <+: inflated twoMembers.members ∧
        (twoMembersRead.gis.err ≠ 0 →
          twoMembersRead.gis.err = 1 ∧ twoMembersRead.gis.out = inflated twoMembers.members)) :=
  ⟨by decide, by decide,
    gzi_read_inflates_members twoMembers_clean (by decide) reachable_twoMembersRead⟩

end ApkTools.Gunzip
