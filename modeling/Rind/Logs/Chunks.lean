import Rind.Logs.Tail

/-!
# Reading a segment in chunks

A segment grows between two reads, and a read goes on from where the one before it ended, with the
bytes that were not done with in front of the new ones. All reads together find what one decode of
the whole content finds, at the same places, and leave over what it leaves over.
-/

namespace Rind

section Chunks

variable [Bincode LogEntry] [Crc32] {segment : String} {content chunk : List UInt8}
  {cursor : TailCursor}

/-- One read after each chunk that is appended to the content. -/
def readChunks (segment : String) (content : List UInt8) (cursor : TailCursor) :
    (chunks : List (List UInt8)) → List Logged × TailCursor
  | [] => ([], cursor)
  | chunk :: chunks =>
      let read := readIncremental segment (content ++ chunk) cursor
      let later := readChunks segment (content ++ chunk) read.2 chunks
      (read.1 ++ later.1, later.2)

/-- The cursor stands behind the content and carries what a decode of it is not done with. -/
structure TailCursor.Follows (cursor : TailCursor) (content : List UInt8) : Prop where
  offset : cursor.offset = content.length
  carry : cursor.carry = content.drop (decodeRecords content).2

/-! ## Decoding more content -/

theorem loggedIn_entries : (loggedIn segment 0 content).map Logged.entry =
    (decodeRecords content).1 := by
  rw [loggedIn, List.map_filterMap, decodeRecords]
  simp only [Option.map_map]
  congr 1
  funext hit
  exact Option.map_id'

/-- More content only adds to what is found. -/
theorem loggedIn_append : loggedIn segment 0 (content ++ chunk) =
    loggedIn segment 0 content ++ loggedIn segment (decodeRecords content).2
      (content.drop (decodeRecords content).2 ++ chunk) := by
  rw [loggedIn, Scanner.scan_append recordScanner, List.filterMap_append, Nat.sub_zero]
  rfl

/-- The decode of more content goes on with what it was not done with. -/
theorem decodeRecords_append (content chunk : List UInt8) : (decodeRecords (content ++ chunk)).2 =
    (decodeRecords content).2 +
      (decodeRecords (content.drop (decodeRecords content).2 ++ chunk)).2 := by
  have shift := Scanner.scan_shift recordScanner (decodeRecords content).2 0
    (content.drop (decodeRecords content).2 ++ chunk)
  rw [Nat.add_zero] at shift
  have whole := congrArg Prod.snd (Scanner.scan_append recordScanner 0 content chunk)
  rw [Nat.sub_zero] at whole
  exact whole.trans (congrArg Prod.snd shift)

theorem decodeRecords_within : (decodeRecords content).2 ≤ content.length := by
  have bounds := (Scanner.scan_bounds recordScanner 0 content).2.1
  rwa [Nat.zero_add] at bounds

/-! ## Reads -/

/-- A read finds what the chunk adds to a decode of the content. -/
theorem readIncremental_chunk (follows : cursor.Follows content) :
    loggedIn segment 0 (content ++ chunk) = loggedIn segment 0 content ++
        (readIncremental segment (content ++ chunk) cursor).1 ∧
      (readIncremental segment (content ++ chunk) cursor).2.Follows (content ++ chunk) := by
  have behind : ¬ (content ++ chunk).length < cursor.offset := by
    rw [follows.offset, List.length_append]
    omega
  have appended : (content ++ chunk).drop cursor.offset = chunk := by
    rw [follows.offset, List.drop_left]
  have within : (decodeRecords content).2 ≤ content.length := decodeRecords_within
  have start : cursor.offset - cursor.carry.length = (decodeRecords content).2 := by
    rw [follows.offset, follows.carry, List.length_drop]
    omega
  rw [readIncremental, if_neg behind]
  simp only [appended]
  split
  · rename_i nothing
    rw [nothing, List.append_nil, List.append_nil]
    exact ⟨rfl, follows⟩
  · refine ⟨?_, ?_, ?_⟩
    · rw [start, follows.carry]
      exact loggedIn_append
    · rw [follows.offset, List.length_append]
    · simp only [follows.carry]
      rw [decodeRecords_append content chunk, ← List.drop_drop,
        List.drop_append_of_le_length within]

/-- So do all reads together. -/
theorem readChunks_follows (follows : cursor.Follows content) (chunks : List (List UInt8)) :
    loggedIn segment 0 (content ++ chunks.flatten) = loggedIn segment 0 content ++
        (readChunks segment content cursor chunks).1 ∧
      (readChunks segment content cursor chunks).2.Follows (content ++ chunks.flatten) := by
  induction chunks generalizing content cursor with
  | nil =>
      rw [List.flatten_nil, List.append_nil]
      exact ⟨(List.append_nil _).symm, follows⟩
  | cons chunk chunks ih =>
      obtain ⟨found, next⟩ := readIncremental_chunk follows
      obtain ⟨later, last⟩ := ih next
      rw [List.flatten_cons, ← List.append_assoc]
      refine ⟨?_, last⟩
      rw [later, found, List.append_assoc]
      rfl

/-- Reads of a segment in chunks find what one decode of the whole finds, each record at its place,
and carry over what that decode is not done with. -/
theorem readChunks_decodes (segment : String) (chunks : List (List UInt8)) :
    let read := readChunks segment [] ⟨0, []⟩ chunks
    read.1 = loggedIn segment 0 chunks.flatten ∧
      read.1.map Logged.entry = (decodeRecords chunks.flatten).1 ∧
      read.2.carry = chunks.flatten.drop (decodeRecords chunks.flatten).2 ∧
      read.2.offset = chunks.flatten.length := by
  have start : (⟨0, []⟩ : TailCursor).Follows [] := ⟨rfl, rfl⟩
  obtain ⟨found, last⟩ := readChunks_follows start chunks
  rw [List.nil_append] at found last
  have whole : loggedIn segment 0 chunks.flatten = (readChunks segment [] ⟨0, []⟩ chunks).1 := found
  refine ⟨whole.symm, ?_, last.carry, last.offset⟩
  rw [← whole]
  exact loggedIn_entries

end Chunks

end Rind
