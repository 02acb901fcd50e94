import SeestarProxy.Control.ReaderLoop

/-
  The read loop of a client handler over the bytes of one
  client.

  `read_line_limited` appends chunks to a line buffer until
  it has a line feed, is at the end of the stream or has more
  than the limit; its caller tests the limit once more and
  either handles the line or closes the connection. The two
  tests together do not depend on where the chunks end.

  Main declarations:
    * `ClientLoop`, `lineRead` and `readRound`
    * `clientReader` and `acceptedLines`
    * `Reading`, `reading_step` and `reading_ends`
    * `client_lines_independent`
-/

------------------------------------------------------------
-- The Read Loop
------------------------------------------------------------

namespace SeestarProxy

namespace Control

open Library

/- The longest line that is accepted from a client. -/
def maxLineBytes : Nat := 1048576

/- Why the read loop has ended. -/
inductive ClientEnd where
| eof
| oversized
deriving DecidableEq

/-
  The read loop: the chunks that `fill_buf` has still to
  return, the first of them without what was consumed of it,
  the line buffer and the bytes counted for the line.
-/
structure ClientLoop where
  chunks : List (List UInt8)
  lineBuf : List UInt8
  total : Nat
  ended : Option ClientEnd
deriving DecidableEq

def ClientLoop.start
    (chunks : List (List UInt8)) : ClientLoop where
  chunks := chunks
  lineBuf := []
  total := 0
  ended := none

/- `consume`: an empty chunk is not returned again. -/
def consume (n : Nat) :
    List (List UInt8) → List (List UInt8)
| [] => []
| chunk :: rest =>
    if chunk.drop n = [] then
      rest
    else
      chunk.drop n :: rest

/-
  What the handler does when `read_line_limited` returns; a
  line that it handles is shown.
-/
def lineRead (s : ClientLoop) :
    ClientLoop × List (List UInt8) :=
  if s.total = 0 then
    ({ s with ended := some .eof }, [])
  else if maxLineBytes < s.lineBuf.length then
    ({ s with ended := some .oversized }, [])
  else
    ({ s with lineBuf := [], total := 0 }, [s.lineBuf])

/- One round of the loop of `read_line_limited`. -/
def readRound
    (limit : Nat)
    (s : ClientLoop) :
    Option (ClientLoop × List (List UInt8)) :=
  if s.ended ≠ none then
    none
  else
    match s.chunks with
    | [] => some (lineRead s)
    | available :: _ =>
        match cutLine available with
        | some (line, _) =>
            let pos := line.length
            some (lineRead { s with
              chunks := consume (pos + 1) s.chunks
              lineBuf :=
                s.lineBuf ++ available.take (pos + 1)
              total := s.total + (pos + 1) })
        | none =>
            let len := available.length
            let s' :=
              { s with
                chunks := consume len s.chunks
                lineBuf := s.lineBuf ++ available
                total := s.total + len }
            if limit < s'.total then
              some (lineRead s')
            else
              some (s', [])

/- The read loop of a client as a machine. -/
def clientReader (chunks : List (List UInt8)) :
    Machine ClientLoop Unit (List UInt8) where
  init := .start chunks
  step := fun s _ => readRound maxLineBytes s

/-
  The lines that a stream has accepted: with their line
  feeds, up to the first that is too long.
-/
def acceptedLines (bytes : List UInt8) : List (List UInt8) :=
  (Lines.records Text.lf bytes).takeWhile fun line =>
    line.length ≤ maxLineBytes

------------------------------------------------------------
-- What the Loop Has Read
------------------------------------------------------------

variable {chunks h o : List (List UInt8)}
variable {bytes available : List UInt8}
variable {s s' : ClientLoop} {C : Nat}

/- Every chunk has some bytes, and at most `C` of them. -/
def ChunksOk
    (C : Nat)
    (chunks : List (List UInt8)) : Prop :=
  ∀ chunk ∈ chunks, chunk ≠ [] ∧ chunk.length ≤ C

theorem flatten_consume
    {n : Nat}
    {rest : List (List UInt8)} :
    (consume n (available :: rest)).flatten =
      available.drop n ++ rest.flatten := by
  rw [consume]
  split
  · rename_i hNil
    rw [hNil]
    rfl
  · rw [List.flatten_cons]

theorem chunksOk_consume
    {n : Nat}
    (hChunks : ChunksOk C chunks) :
    ChunksOk C (consume n chunks) := by
  cases chunks with
  | nil => exact hChunks
  | cons chunk rest =>
      have hRest : ChunksOk C rest := fun other hMem =>
        hChunks other (List.mem_cons_of_mem chunk hMem)
      rw [consume]
      split
      · exact hRest
      · rename_i hSome
        intro other hMem
        rcases List.mem_cons.mp hMem with rfl | hOld
        · refine ⟨hSome, ?_⟩
          rw [List.length_drop]
          have hChunk :=
            (hChunks chunk List.mem_cons_self).2
          omega
        · exact hRest other hOld

/-
  What the loop has done with a stream. While it runs, the
  records are the lines that it has handled and those of
  what is in the line buffer and still to come; it ends with
  the stream or at the first line that is too long.
-/
inductive Reading
    (C : Nat)
    (bytes : List UInt8)
    (h : List (List UInt8))
    (s : ClientLoop) : Prop
| running
    (hOpen : s.ended = none)
    (hChunks : ChunksOk C s.chunks)
    (hRecords :
      Lines.records Text.lf bytes =
        h ++ Lines.records Text.lf
          (s.lineBuf ++ s.chunks.flatten))
    (hLine : Text.lf ∉ s.lineBuf)
    (hTotal : s.total = s.lineBuf.length)
    (hLength : s.lineBuf.length ≤ maxLineBytes)
| atEnd
    (hEnded : s.ended = some .eof)
    (hRecords : Lines.records Text.lf bytes = h)
    (hEmpty : s.lineBuf = [])
| tooLong
    (hEnded : s.ended = some .oversized)
    (line : List UInt8)
    (rest : List (List UInt8))
    (hRecords :
      Lines.records Text.lf bytes = h ++ line :: rest)
    (hLong : maxLineBytes < line.length)
    (hLength : s.lineBuf.length ≤ maxLineBytes + C)

theorem reading_start
    (hChunks : ChunksOk C chunks) :
    Reading C chunks.flatten [] (.start chunks) :=
  .running rfl hChunks rfl List.not_mem_nil rfl
    (Nat.zero_le _)

/-
  A complete line buffer is handled, or ends the connection
  when it is too long.
-/
theorem reading_lineRead
    (rest : List UInt8)
    (hOpen : s.ended = none)
    (hChunks : ChunksOk C s.chunks)
    (hSome : s.lineBuf ≠ [])
    (hTotal : s.total = s.lineBuf.length)
    (hRest : s.chunks.flatten = rest)
    (hRecords :
      Lines.records Text.lf bytes =
        h ++ s.lineBuf :: Lines.records Text.lf rest)
    (hLength : s.lineBuf.length ≤ maxLineBytes + C) :
    Reading C bytes (h ++ (lineRead s).2)
      (lineRead s).1 := by
  have hPos : s.total ≠ 0 := by
    rw [hTotal]
    exact fun hZero =>
      hSome (List.length_eq_zero_iff.mp hZero)
  unfold lineRead
  rw [if_neg hPos]
  split
  · rename_i hLong
    refine .tooLong rfl s.lineBuf
      (Lines.records Text.lf rest) ?_ hLong hLength
    rw [List.append_nil]
    exact hRecords
  · refine .running hOpen hChunks ?_ List.not_mem_nil rfl
      (Nat.zero_le _)
    rw [List.append_assoc, List.singleton_append,
      List.nil_append, hRest]
    exact hRecords

/- The stream has ended: the fragment is the last line. -/
theorem reading_atEnd
    (hOpen : s.ended = none)
    (hNone : s.chunks = [])
    (hRecords :
      Lines.records Text.lf bytes =
        h ++ Lines.records Text.lf s.lineBuf)
    (hLine : Text.lf ∉ s.lineBuf)
    (hTotal : s.total = s.lineBuf.length)
    (hLength : s.lineBuf.length ≤ maxLineBytes) :
    Reading C bytes (h ++ (lineRead s).2)
      (lineRead s).1 := by
  by_cases hEmpty : s.lineBuf = []
  · -- Nothing came after the last line.
    have hZero : s.total = 0 := by
      rw [hTotal, hEmpty]
      rfl
    unfold lineRead
    rw [if_pos hZero]
    refine .atEnd rfl ?_ hEmpty
    rw [hRecords, hEmpty]
    rfl
  · have hChunks : ChunksOk C s.chunks := by
      rw [hNone]
      intro chunk hMem
      cases hMem
    rw [Lines.records_of_notMem hLine hEmpty] at hRecords
    exact reading_lineRead [] hOpen hChunks hEmpty
      hTotal (by rw [hNone]; rfl) hRecords
      (Nat.le_trans hLength (Nat.le_add_right _ C))

/- A chunk with a line feed completes the line buffer. -/
theorem reading_lineFeed
    {line tail : List UInt8}
    {rest : List (List UInt8)}
    (hOpen : s.ended = none)
    (hChunks : ChunksOk C (available :: rest))
    (hCut : cutLine available = some (line, tail))
    (hRecords :
      Lines.records Text.lf bytes =
        h ++ Lines.records Text.lf
          (s.lineBuf ++ (available ++ rest.flatten)))
    (hLine : Text.lf ∉ s.lineBuf)
    (hTotal : s.total = s.lineBuf.length)
    (hLength : s.lineBuf.length ≤ maxLineBytes)
    (hNext :
      s' =
        { s with
          chunks :=
            consume (line.length + 1) (available :: rest)
          lineBuf :=
            s.lineBuf ++ available.take (line.length + 1)
          total := s.total + (line.length + 1) }) :
    Reading C bytes (h ++ (lineRead s').2)
      (lineRead s').1 := by
  have hParts := cutLine_some hCut
  have hFirst : Text.lf ∉ s.lineBuf ++ line := by
    rw [List.mem_append, not_or]
    exact ⟨hLine, lf_notMem_of_cutLine hCut⟩
  have hTake :
      available.take (line.length + 1) =
        line ++ [Text.lf] := by
    rw [hParts, List.take_append]
    simp
  have hDrop :
      available.drop (line.length + 1) = tail := by
    rw [hParts, List.drop_append]
    simp
  have hChunk :=
    (hChunks available List.mem_cons_self).2
  rw [hParts, List.length_append,
    List.length_cons] at hChunk
  have hStream :
      s.lineBuf ++ (available ++ rest.flatten) =
        (s.lineBuf ++ line) ++
          Text.lf :: (tail ++ rest.flatten) := by
    rw [hParts]
    simp
  rw [hStream, Lines.records_line hFirst] at hRecords
  rw [hTake] at hNext
  have hBuf :
      s'.lineBuf = s.lineBuf ++ line ++ [Text.lf] := by
    rw [hNext, List.append_assoc]
  refine reading_lineRead (tail ++ rest.flatten)
    ?_ ?_ ?_ ?_ ?_ ?_ ?_
  · rw [hNext]
    exact hOpen
  · rw [hNext]
    exact chunksOk_consume hChunks
  · rw [hBuf]
    simp
  · rw [hBuf, hNext, hTotal]
    simp only [List.length_append, List.length_singleton]
    omega
  · rw [hNext]
    exact flatten_consume.trans (by rw [hDrop])
  · rw [hBuf]
    exact hRecords
  · rw [hBuf]
    simp only [List.length_append, List.length_singleton]
    omega

/- A chunk without a line feed goes on with the line. -/
theorem reading_chunk
    {rest : List (List UInt8)}
    (hOpen : s.ended = none)
    (hChunks : ChunksOk C (available :: rest))
    (hCut : cutLine available = none)
    (hRecords :
      Lines.records Text.lf bytes =
        h ++ Lines.records Text.lf
          (s.lineBuf ++ (available ++ rest.flatten)))
    (hLine : Text.lf ∉ s.lineBuf)
    (hTotal : s.total = s.lineBuf.length)
    (hLength : s.lineBuf.length ≤ maxLineBytes)
    (hNext :
      s' =
        { s with
          chunks :=
            consume available.length (available :: rest)
          lineBuf := s.lineBuf ++ available
          total := s.total + available.length }) :
    (s'.total ≤ maxLineBytes → Reading C bytes h s') ∧
      (maxLineBytes < s'.total →
        Reading C bytes (h ++ (lineRead s').2)
          (lineRead s').1) := by
  have hChunk := hChunks available List.mem_cons_self
  have hOn : Text.lf ∉ s.lineBuf ++ available := by
    rw [List.mem_append, not_or]
    exact ⟨hLine, cutLine_none hCut⟩
  have hSome : s.lineBuf ++ available ≠ [] := by
    simp [hChunk.1]
  have hBuf : s'.lineBuf = s.lineBuf ++ available := by
    rw [hNext]
  have hCount : s'.total = s'.lineBuf.length := by
    rw [hBuf, hNext, hTotal, List.length_append]
  have hRest : s'.chunks.flatten = rest.flatten := by
    rw [hNext]
    exact flatten_consume.trans (by
      rw [List.drop_length, List.nil_append])
  have hBound :
      s'.lineBuf.length ≤ maxLineBytes + C := by
    rw [hBuf, List.length_append]
    omega
  rw [← List.append_assoc] at hRecords
  constructor
  · intro hFew
    refine .running ?_ ?_ ?_ ?_ hCount ?_
    · rw [hNext]
      exact hOpen
    · rw [hNext]
      exact chunksOk_consume hChunks
    · rw [hRest, hBuf]
      exact hRecords
    · rw [hBuf]
      exact hOn
    · rw [← hCount]
      exact hFew
  · intro hMany
    -- The first record is at least what has been read.
    rcases Lines.records_start hOn hSome rest.flatten with
      ⟨first, others, hFirst, hStart⟩
    have hPos : s'.total ≠ 0 := by omega
    have hLong := hMany
    rw [hCount] at hLong
    have hWhole := hStart.length_le
    rw [← hBuf] at hWhole
    unfold lineRead
    rw [if_neg hPos, if_pos hLong]
    refine .tooLong rfl first others ?_ ?_ hBound
    · rw [List.append_nil, hRecords, hFirst]
    · omega

theorem reading_step
    (hReading : Reading C bytes h s)
    (hStep : readRound maxLineBytes s = some (s', o)) :
    Reading C bytes (h ++ o) s' := by
  unfold readRound at hStep
  cases hReading with
  | atEnd hEnded hRecords hEmpty => simp [hEnded] at hStep
  | tooLong hEnded hRecords hLong hLength =>
      simp [hEnded] at hStep
  | running hOpen hChunks hRecords hLine hTotal hLength =>
      rw [if_neg (not_not.mpr hOpen)] at hStep
      cases hAt : s.chunks with
      | nil =>
          rw [hAt] at hStep hRecords
          rw [List.flatten_nil, List.append_nil] at hRecords
          have hDone := reading_atEnd (C := C) hOpen hAt
            hRecords hLine hTotal hLength
          rw [Option.some.inj hStep] at hDone
          exact hDone
      | cons available rest =>
          rw [hAt] at hStep hChunks hRecords
          rw [List.flatten_cons] at hRecords
          cases hCut : cutLine available with
          | some cut =>
              rcases cut with ⟨line, tail⟩
              simp only [hCut] at hStep
              have hDone := reading_lineFeed hOpen hChunks
                hCut hRecords hLine hTotal hLength rfl
              rw [Option.some.inj hStep] at hDone
              exact hDone
          | none =>
              simp only [hCut] at hStep
              have hDone := reading_chunk hOpen hChunks hCut
                hRecords hLine hTotal hLength rfl
              split at hStep
              · rename_i hMany
                have hLong := hDone.2 hMany
                rw [Option.some.inj hStep] at hLong
                exact hLong
              · rename_i hFew
                cases hStep
                rw [List.append_nil]
                exact hDone.1 (Nat.le_of_not_lt hFew)

------------------------------------------------------------
-- Runs
------------------------------------------------------------

/- What the loop has done is known in every state. -/
theorem reading_of_run
    {es : List Unit}
    (hChunks : ChunksOk C chunks)
    (hRun : (clientReader chunks).Run es h s) :
    Reading C chunks.flatten h s := by
  refine Machine.run_invariant
    (reading_start hChunks) ?_ hRun
  intro h s e s' o hReading hStep
  exact reading_step hReading hStep

/-
  What the loop has still to do: the bytes to come, each for
  two steps, and the last line.
-/
def rank (s : ClientLoop) : Nat :=
  2 * s.chunks.flatten.length +
    if s.total = 0 then 0 else 1

theorem rank_lineRead_le (s : ClientLoop) :
    rank (lineRead s).1 ≤ 2 * s.chunks.flatten.length ∨
      (lineRead s).1.ended ≠ none := by
  unfold lineRead
  split
  · exact Or.inr (by simp)
  · split
    · exact Or.inr (by simp)
    · exact Or.inl (by simp [rank])

/- What `lineRead` leaves of the chunks. -/
theorem chunks_lineRead (s : ClientLoop) :
    (lineRead s).1.chunks = s.chunks := by
  unfold lineRead
  split
  · rfl
  · split <;> rfl

/-
  A state with fewer bytes to come is nearer to the end after
  `lineRead`.
-/
theorem lineRead_progress
    (hChunks : ChunksOk C s'.chunks)
    (hLess : s'.chunks.flatten.length <
      s.chunks.flatten.length) :
    (lineRead s').1.ended ≠ none ∨
      (ChunksOk C (lineRead s').1.chunks ∧
        rank (lineRead s').1 < rank s) := by
  rcases rank_lineRead_le s' with hRank | hEnded
  · right
    rw [chunks_lineRead]
    refine ⟨hChunks, ?_⟩
    have hRankS : 2 * s.chunks.flatten.length ≤ rank s :=
      Nat.le_add_right _ _
    omega
  · exact Or.inl hEnded

/- Every round brings the loop nearer to its end. -/
theorem readRound_progress
    (hOpen : s.ended = none)
    (hChunks : ChunksOk C s.chunks) :
    ∃ next, readRound maxLineBytes s = some next ∧
      (next.1.ended ≠ none ∨
        (ChunksOk C next.1.chunks ∧
          rank next.1 < rank s)) := by
  unfold readRound
  rw [if_neg (not_not.mpr hOpen)]
  cases hAt : s.chunks with
  | nil =>
      refine ⟨lineRead s, rfl, ?_⟩
      by_cases hTotal : s.total = 0
      · left
        unfold lineRead
        rw [if_pos hTotal]
        simp
      · rcases rank_lineRead_le s with hRank | hEnded
        · right
          rw [chunks_lineRead]
          refine ⟨hChunks, ?_⟩
          have hRankS : rank s =
              2 * s.chunks.flatten.length + 1 := by
            unfold rank
            rw [if_neg hTotal]
          omega
        · exact Or.inl hEnded
  | cons available rest =>
      have hSome : 0 < available.length := by
        apply List.length_pos_iff.mpr
        exact (hChunks available (by rw [hAt]; simp)).1
      -- A positive number of the bytes to come is consumed.
      have hLess : ∀ n, 0 < n →
          (consume n (available :: rest)).flatten.length <
            s.chunks.flatten.length := by
        intro n hPos
        rw [hAt, flatten_consume, List.flatten_cons,
          List.length_append, List.length_append,
          List.length_drop]
        omega
      rw [hAt] at hChunks
      cases hCut : cutLine available with
      | some cut =>
          simp only [hCut]
          refine ⟨_, rfl, ?_⟩
          exact lineRead_progress (chunksOk_consume hChunks)
            (hLess _ (Nat.succ_pos _))
      | none =>
          simp only [hCut]
          split
          · refine ⟨_, rfl, ?_⟩
            exact lineRead_progress
              (chunksOk_consume hChunks) (hLess _ hSome)
          · refine ⟨_, rfl, Or.inr
              ⟨chunksOk_consume hChunks, ?_⟩⟩
            have hFewer := hLess _ hSome
            simp only [rank]
            split <;> split <;> omega

/- From every state the loop comes to its end. -/
theorem reading_ends
    (hChunks : ChunksOk C s.chunks) :
    ∃ es s' o,
      (clientReader chunks).exec s es = some (s', o) ∧
        s'.ended ≠ none := by
  induction hRank : rank s using Nat.strong_induction_on
    generalizing s with
  | _ n ih =>
      by_cases hOpen : s.ended = none
      · rcases readRound_progress hOpen hChunks with
          ⟨⟨s', o⟩, hStep, hEnded | ⟨hNext, hLess⟩⟩
        · exact ⟨[()], s', o, Machine.exec_one hStep, hEnded⟩
        · rcases ih (rank s') (hRank ▸ hLess) hNext rfl with
            ⟨es, s'', o', hRest, hEnded⟩
          exact ⟨() :: es, s'', o ++ o',
            Machine.exec_cons hStep hRest, hEnded⟩
      · exact ⟨[], s, [], rfl, hOpen⟩

------------------------------------------------------------
-- Accepted Lines
------------------------------------------------------------

/- The line that `lineRead` handles is short. -/
theorem lineRead_short
    {line : List UInt8}
    (hMem : line ∈ (lineRead s).2) :
    line.length ≤ maxLineBytes := by
  unfold lineRead at hMem
  split at hMem
  · cases hMem
  · split at hMem
    · cases hMem
    · rename_i hFew
      rw [List.mem_singleton.mp hMem]
      exact Nat.le_of_not_lt hFew

/- What a round handles is what `lineRead` handles. -/
theorem readRound_short
    {line : List UInt8}
    (hStep : readRound maxLineBytes s = some (s', o))
    (hMem : line ∈ o) :
    line.length ≤ maxLineBytes := by
  have hRead : ∀ {s : ClientLoop},
      some (lineRead s) = some (s', o) →
        line.length ≤ maxLineBytes := by
    intro s hNext
    have hOut : (lineRead s).2 = o :=
      congrArg Prod.snd (Option.some.inj hNext)
    exact lineRead_short (hOut ▸ hMem)
  unfold readRound at hStep
  split at hStep
  · cases hStep
  · split at hStep
    · exact hRead hStep
    · split at hStep
      · exact hRead hStep
      · simp only at hStep
        split at hStep
        · exact hRead hStep
        · cases hStep
          cases hMem

/- The lines that were handled are short. -/
theorem handled_short
    {es : List Unit}
    (hRun : (clientReader chunks).Run es h s) :
    ∀ line ∈ h, line.length ≤ maxLineBytes := by
  refine Machine.run_invariant
    (motive := fun h _ =>
      ∀ line ∈ h, line.length ≤ maxLineBytes)
    (by simp) ?_ hRun
  intro h s e s' o hShort hStep line hMem
  rcases List.mem_append.mp hMem with hOld | hNew
  · exact hShort line hOld
  · exact readRound_short hStep hNew

/-
  Short records before a long one, or before the end, are the
  accepted lines.
-/
theorem takeWhile_short
    {handled rest : List (List UInt8)}
    (hShort : ∀ line ∈ handled, line.length ≤ maxLineBytes) :
    (handled ++ rest).takeWhile
        (fun line => line.length ≤ maxLineBytes) =
      handled ++ rest.takeWhile
        (fun line => line.length ≤ maxLineBytes) := by
  rw [List.takeWhile_append_of_pos]
  intro line hMem
  exact decide_eq_true (hShort line hMem)

/- Short records up to the end are the accepted lines. -/
theorem takeWhile_all
    {handled : List (List UInt8)}
    (hShort : ∀ line ∈ handled, line.length ≤ maxLineBytes) :
    handled.takeWhile
        (fun line => line.length ≤ maxLineBytes) =
      handled :=
  List.takeWhile_eq_self_iff.mpr fun line hMem =>
    decide_eq_true (hShort line hMem)

/-
  The lines that were handled are accepted ones, and when the
  loop has ended they are all of them.
-/
theorem accepted_of_reading
    (hReading : Reading C bytes h s)
    (hShort : ∀ line ∈ h, line.length ≤ maxLineBytes) :
    h <+: acceptedLines bytes ∧
      (s.ended ≠ none → h = acceptedLines bytes) := by
  unfold acceptedLines
  cases hReading with
  | running hOpen hChunks hRecords hLine hTotal hLength =>
      rw [hRecords, takeWhile_short hShort]
      refine ⟨List.prefix_append _ _, fun hEnded => ?_⟩
      exact absurd hOpen hEnded
  | atEnd hEnded hRecords hEmpty =>
      rw [hRecords, takeWhile_all hShort]
      exact ⟨List.prefix_refl _, fun _ => rfl⟩
  | tooLong hEnded line rest hRecords hLong hLength =>
      rw [hRecords, takeWhile_short hShort,
        List.takeWhile_cons_of_neg (by simpa using hLong),
        List.append_nil]
      exact ⟨List.prefix_refl _, fun _ => rfl⟩

/-
  The read loop of a client and `read_line_limited` accept,
  from every stream in whatever chunks, the same lines: each
  line of the stream, whole and in order, up to the first
  that is longer than the limit, at which the connection is
  closed. The line buffer holds at most the limit and one
  chunk, and the loop comes to its end.
-/
theorem client_lines_independent
    (chunks : List (List UInt8))
    (C : Nat)
    (hChunks : ChunksOk C chunks) :
    (∀ es h s, (clientReader chunks).Run es h s →
      s.lineBuf.length ≤ maxLineBytes + C ∧
      h <+: acceptedLines chunks.flatten ∧
      (s.ended ≠ none →
        h = acceptedLines chunks.flatten) ∧
      (s.ended = some .oversized →
        ∃ line rest,
          Lines.records Text.lf chunks.flatten =
            h ++ line :: rest ∧
          maxLineBytes < line.length) ∧
      (s.ended = some .eof →
        Lines.records Text.lf chunks.flatten = h)) ∧
    (clientReader chunks).Reaches
      fun s => s.ended ≠ none := by
  constructor
  · intro es h s hRun
    have hReading := reading_of_run hChunks hRun
    rcases accepted_of_reading hReading
      (handled_short hRun) with ⟨hPrefix, hAll⟩
    cases hReading with
    | running hOpen hRest hRecords hLine hTotal hLength =>
        refine ⟨?_, hPrefix, hAll, ?_, ?_⟩
        · omega
        · intro hEnded
          rw [hOpen] at hEnded
          cases hEnded
        · intro hEnded
          rw [hOpen] at hEnded
          cases hEnded
    | atEnd hEnded hRecords hEmpty =>
        refine ⟨?_, hPrefix, hAll, ?_, ?_⟩
        · rw [hEmpty]
          exact Nat.zero_le _
        · intro hLong
          rw [hEnded] at hLong
          cases hLong
        · exact fun _ => hRecords
    | tooLong hEnded line rest hRecords hLong hLength =>
        refine ⟨hLength, hPrefix, hAll, ?_, ?_⟩
        · exact fun _ => ⟨line, rest, hRecords, hLong⟩
        · intro hEof
          rw [hEnded] at hEof
          cases hEof
  · have hEnds :
        ∃ es s h,
          (clientReader chunks).exec (.start chunks) es =
              some (s, h) ∧
            s.ended ≠ none :=
      reading_ends hChunks
    rcases hEnds with ⟨es, s, h, hExec, hEnded⟩
    exact ⟨es, h, s, hExec, hEnded⟩

/- The line `a` in two chunks, and a last `b`. -/
theorem client_lines_independent_split :
    ChunksOk 2 [[97], [10, 98]] ∧
    (clientReader [[97], [10, 98]]).Reaches
      fun s => s.ended ≠ none := by
  have hChunks : ChunksOk 2 [[97], [10, 98]] := by
    unfold ChunksOk
    decide
  exact ⟨hChunks,
    (client_lines_independent _ 2 hChunks).2⟩

end Control

end SeestarProxy
