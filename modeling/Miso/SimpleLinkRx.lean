import Miso.Base.Resync

set_option autoImplicit false

namespace Miso.SlDrv

open Base (Quiet firstAfter readExact skipWords)

abbrev Byte := BitVec 8

abbrev syncPatternLen : Nat := 4

def n2hSyncPattern : BitVec 32 := 0xABCDDCBA
def n2hSyncPatternSeqNumBits : BitVec 32 := 0x00000003
def n2hSyncPatternSeqNumExists : BitVec 32 := 0x00000004
def n2hSyncPatternMask : BitVec 32 := 0xFFFFFFF8
def n2hSyncSpiBugsMask : BitVec 32 := 0x7FFF7F7F

-- What *(_u32 *)pBuf reads.
def word (pBuf : List Byte) : BitVec 32 := pBuf.getD 3 0 ++ pBuf.getD 2 0 ++ pBuf.getD 1 0 ++ pBuf.getD 0 0

def bufSyncSpim (pBuf : List Byte) : BitVec 32 := word pBuf &&& n2hSyncSpiBugsMask

def n2hSyncSpim : BitVec 32 := n2hSyncPattern &&& n2hSyncSpiBugsMask

def n2hSyncSpimWithSeq (txSeqNum : BitVec 8) : BitVec 32 :=
  n2hSyncSpim &&& n2hSyncPatternMask ||| n2hSyncPatternSeqNumExists ||| txSeqNum.setWidth 32 &&& n2hSyncPatternSeqNumBits

def n2hSyncPatternMatch (txSeqNum : BitVec 8) (pBuf : List Byte) : Bool :=
  if word pBuf &&& n2hSyncPatternSeqNumExists ≠ 0 then bufSyncSpim pBuf = n2hSyncSpimWithSeq txSeqNum
  else bufSyncSpim pBuf = n2hSyncSpim

def findShift (txSeqNum : BitVec 8) (pBuf : List Byte) : Option Nat :=
  (List.range 5).find? fun shiftIdx => n2hSyncPatternMatch txSeqNum ((pBuf.drop shiftIdx).take syncPatternLen)

-- pBuf holds 8 bytes; a pattern found at the last shift moves the 4 bytes that
-- follow it on the stack. There are no timestamps, so the search ends only with
-- a pattern or an interface error.
def searchSync (txSeqNum : BitVec 8) (stack : List Byte) : Nat → List Byte → List Byte → Option (List Byte × List Byte)
  | 0, _, _ => none
  | fuel + 1, pBuf, input =>
      match findShift txSeqNum pBuf with
      | some shiftIdx =>
          (readExact shiftIdx input).map fun bytes =>
            ((((pBuf ++ stack).drop (shiftIdx + syncPatternLen)).take 4).take (syncPatternLen - shiftIdx) ++ bytes.1, bytes.2)
      | none => (readExact 4 input).bind fun bytes => searchSync txSeqNum stack fuel (pBuf.drop 4 ++ bytes.1) bytes.2

-- pBuf once its words differ.
def readFirstWords (input : List Byte) : Option (List Byte × List Byte) :=
  (readExact 8 input).bind fun first =>
    (skipWords (· = first.1.take 4) 4 (first.2.length + 1) (first.1.drop 4) first.2).map fun top =>
      (first.1.take 4 ++ top.1, top.2)

-- From the word after the pattern: the scan for double patterns, and the rest of
-- the header.
def readHeader (txSeqNum : BitVec 8) (found input : List Byte) : Option (List Byte × BitVec 8 × List Byte) :=
  (skipWords (n2hSyncPatternMatch txSeqNum) 4 (input.length + 1) found input).bind fun generic =>
    (readExact 4 generic.2).map fun specific => (generic.1 ++ specific.1, txSeqNum + 1, specific.2)

-- The header, the next TxSeqNum and what is left of the input; none where the
-- interface ends before that. pAlignSize is 0.
def drvRxHdrRead (txSeqNum : BitVec 8) (stack input : List Byte) : Option (List Byte × BitVec 8 × List Byte) :=
  (readFirstWords input).bind fun pBuf =>
    (searchSync txSeqNum stack (pBuf.2.length + 1) pBuf.1 pBuf.2).bind fun found => readHeader txSeqNum found.1 found.2

theorem read_first_words_iff (input pBuf rest : List Byte) :
    readFirstWords input = some (pBuf, rest) ↔ ∃ first top : List Byte, ∃ repeats : List (List Byte),
      pBuf = first ++ top ∧ input = first ++ repeats.flatten ++ (top ++ rest) ∧ first.length = 4 ∧
        (∀ other ∈ repeats, other = first) ∧ top.length = 4 ∧ top ≠ first := by
  unfold readFirstWords
  simp only [Option.bind_eq_some_iff, Option.map_eq_some_iff]
  constructor
  · intro ran
    obtain ⟨⟨start, later⟩, read, ⟨top, left⟩, skipped, same⟩ := ran
    cases same
    obtain ⟨rfl, size⟩ := (Base.read_exact_iff 8 input start later).mp read
    have whole : (start.drop 4).length = 4 := by
      rw [List.length_drop]
      omega
    obtain ⟨repeats, shape, repeated, topSize, other⟩ :=
      (Base.skip_words_iff _ _ _ _ _ _ (by omega) whole (Nat.lt_succ_self _)).mp skipped
    refine ⟨start.take 4, top, repeats, rfl, ?_, ?_, ?_, topSize, by simpa using other⟩
    · calc start ++ later = start.take 4 ++ (start.drop 4 ++ later) := by rw [← List.append_assoc, List.take_append_drop]
        _ = start.take 4 ++ repeats.flatten ++ (top ++ left) := by
          rw [shape]
          simp only [List.append_assoc]
    · rw [List.length_take]
      omega
    · intro other member
      simpa using (repeated other member).2
  · intro parts
    obtain ⟨first, top, repeats, rfl, shape, size, repeated, topSize, other⟩ := parts
    obtain ⟨second, later, next, secondSize⟩ : ∃ second later, repeats.flatten ++ (top ++ rest) = second ++ later ∧
        second.length = 4 := by
      cases repeats with
      | nil => exact ⟨top, rest, rfl, topSize⟩
      | cons head tail =>
          refine ⟨head, tail.flatten ++ (top ++ rest), by rw [List.flatten_cons, List.append_assoc], ?_⟩
          rw [repeated head List.mem_cons_self, size]
    have low : (first ++ second).take 4 = first := by rw [← size, List.take_left]
    have high : (first ++ second).drop 4 = second := by rw [← size, List.drop_left]
    refine ⟨(first ++ second, later), ?_, (top, rest), ?_, by rw [low]⟩
    · refine (Base.read_exact_iff 8 input (first ++ second) later).mpr ⟨?_, by rw [List.length_append]; omega⟩
      rw [shape, List.append_assoc, next, List.append_assoc]
    · simp only [low, high]
      refine (Base.skip_words_iff _ _ _ _ _ _ (by omega) secondSize (Nat.lt_succ_self _)).mpr ⟨repeats, ?_, ?_, topSize, by simpa using other⟩
      · rw [← next, List.append_assoc]
      · intro word member
        obtain rfl := repeated word member
        exact ⟨size, by simp⟩

theorem read_header_iff (txSeqNum next : BitVec 8) (found input header rest : List Byte) (size : found.length = 4) :
    readHeader txSeqNum found input = some (header, next, rest) ↔ next = txSeqNum + 1 ∧ ∃ doubles : List (List Byte),
      found ++ input = doubles.flatten ++ header ++ rest ∧
        (∀ double ∈ doubles, double.length = 4 ∧ n2hSyncPatternMatch txSeqNum double = true) ∧
        header.length = 8 ∧ n2hSyncPatternMatch txSeqNum (header.take 4) = false := by
  unfold readHeader
  simp only [Option.bind_eq_some_iff, Option.map_eq_some_iff]
  constructor
  · intro ran
    obtain ⟨⟨generic, later⟩, skipped, ⟨specific, left⟩, read, same⟩ := ran
    cases same
    obtain ⟨doubles, shape, skips, genericSize, stops⟩ :=
      (Base.skip_words_iff _ _ _ _ _ _ (by omega) size (Nat.lt_succ_self _)).mp skipped
    obtain ⟨apart, specificSize⟩ := (Base.read_exact_iff 4 later specific left).mp read
    have whole : (generic ++ specific).length = 8 := by
      rw [List.length_append]
      omega
    refine ⟨rfl, doubles, ?_, skips, whole, ?_⟩
    · rw [shape, apart]
      simp only [List.append_assoc]
    · rwa [← genericSize, List.take_left]
  · intro parts
    obtain ⟨rfl, doubles, shape, skips, whole, stops⟩ := parts
    have parted : header.take 4 ++ header.drop 4 = header := List.take_append_drop 4 header
    refine ⟨(header.take 4, header.drop 4 ++ rest), ?_, (header.drop 4, rest), ?_, by rw [parted]⟩
    · refine (Base.skip_words_iff _ _ _ _ _ _ (by omega) size (Nat.lt_succ_self _)).mpr ⟨doubles, ?_, skips, ?_, stops⟩
      · rw [shape, List.append_assoc _ _ rest, List.append_assoc _ _ (header.drop 4 ++ rest), ← List.append_assoc (header.take 4), parted]
      · rw [List.length_take]
        omega
    · exact (Base.read_exact_iff 4 _ _ _).mpr ⟨rfl, by rw [List.length_drop]; omega⟩

theorem search_sync (txSeqNum : BitVec 8) (stack : List Byte) (fuel : Nat) (pBuf input : List Byte)
    (full : pBuf.length = 8) (enough : input.length < fuel) :
    searchSync txSeqNum stack fuel pBuf input =
      (firstAfter (n2hSyncPatternMatch txSeqNum) 4 (pBuf ++ input)).bind (readExact 4) := by
  induction fuel generalizing pBuf input with
  | zero => exact absurd enough (Nat.not_lt_zero _)
  | succ fuel ih =>
      have window (shiftIdx : Nat) (inside : shiftIdx ≤ 4) :
          ((pBuf ++ input).drop shiftIdx).take 4 = (pBuf.drop shiftIdx).take 4 := by
        rw [List.drop_append_of_le_length (by omega), List.take_append_of_le_length (by rw [List.length_drop]; omega)]
      cases shifted : findShift txSeqNum pBuf with
      | some shiftIdx =>
          obtain ⟨hits, inside, quiet⟩ := List.find?_range_eq_some.mp shifted
          have low : shiftIdx ≤ 4 := Nat.le_of_lt_succ (List.mem_range.mp inside)
          have silent : Quiet (n2hSyncPatternMatch txSeqNum) 4 shiftIdx (pBuf ++ input) := by
            intro offset before _
            rw [window offset (by omega)]
            simpa only [Bool.not_eq_true'] using quiet offset before
          have start : ((pBuf ++ input).drop shiftIdx).take 4 = (pBuf.drop shiftIdx).take 4 := window shiftIdx low
          have found : firstAfter (n2hSyncPatternMatch txSeqNum) 4 (pBuf ++ input) = some (pBuf.drop (shiftIdx + 4) ++ input) := by
            rw [Base.first_after_skip shiftIdx _ silent, Base.first_after_here _ _ (by omega) (by rw [start]; exact hits),
              List.drop_drop, List.drop_append_of_le_length (by omega)]
            rw [List.length_drop, List.length_append]
            omega
          have moved : (((pBuf ++ stack).drop (shiftIdx + 4)).take 4).take (4 - shiftIdx) = pBuf.drop (shiftIdx + 4) := by
            rw [List.take_take, List.drop_append_of_le_length (by omega), List.take_append_of_le_length]
            · exact List.take_of_length_le (by rw [List.length_drop]; omega)
            · rw [List.length_drop]
              omega
          have size : (pBuf.drop (shiftIdx + 4)).length = 4 - shiftIdx := by
            rw [List.length_drop]
            omega
          rw [searchSync, shifted, found, Option.bind_some]
          simp only [syncPatternLen, moved]
          unfold readExact
          by_cases rest : shiftIdx ≤ input.length
          · rw [if_pos rest, if_pos (by rw [List.length_append]; omega), Option.map_some, List.take_append, List.drop_append, size]
            have back : 4 - (4 - shiftIdx) = shiftIdx := by omega
            have whole : (pBuf.drop (shiftIdx + 4)).take 4 = pBuf.drop (shiftIdx + 4) := List.take_of_length_le (by omega)
            have none_ : (pBuf.drop (shiftIdx + 4)).drop 4 = [] := List.drop_eq_nil_of_le (by omega)
            rw [back, whole, none_, List.nil_append]
          · rw [if_neg rest, if_neg (by rw [List.length_append]; omega)]
            rfl
      | none =>
          have silent : Quiet (n2hSyncPatternMatch txSeqNum) 4 4 (pBuf ++ input) := by
            intro offset before _
            rw [window offset (by omega)]
            simpa using List.find?_range_eq_none.mp shifted offset (by omega)
          rw [searchSync, shifted]
          simp only
          rw [Base.first_after_skip 4 _ silent, List.drop_append_of_le_length (by omega)]
          cases read : readExact 4 input with
          | none =>
              have short : ¬ 4 ≤ input.length := by
                intro enough
                rw [readExact, if_pos enough] at read
                cases read
              cases found : firstAfter (n2hSyncPatternMatch txSeqNum) 4 (pBuf.drop 4 ++ input) with
              | none => rfl
              | some after =>
                  have bound := Base.first_after_length (by omega) _ _ found
                  rw [List.length_append, List.length_drop] at bound
                  rw [Option.bind_none, Option.bind_some, readExact, if_neg (by omega)]
          | some pair =>
              obtain ⟨bytes, rest⟩ := pair
              obtain ⟨rfl, size⟩ := (Base.read_exact_iff 4 input bytes rest).mp read
              have whole : (pBuf.drop 4 ++ bytes).length = 8 := by
                rw [List.length_append, List.length_drop]
                omega
              have fewer : rest.length < fuel := by
                rw [List.length_append] at enough
                omega
              rw [Option.bind_some, ih _ _ whole fewer, List.append_assoc]

-- A header on the wire. What the reader drops before it is its first word, what
-- repeats that word, and what comes before the first pattern in the rest; what
-- it drops after that pattern are further patterns.
def Framed (txSeqNum : BitVec 8) (input header rest : List Byte) : Prop :=
  ∃ first shown before sync : List Byte, ∃ repeats doubles : List (List Byte),
    input = first ++ repeats.flatten ++ shown ∧
    (first.length = 4 ∧ (∀ other ∈ repeats, other = first) ∧ 4 ≤ shown.length ∧ shown.take 4 ≠ first) ∧
    first ++ shown = before ++ sync ++ (doubles.flatten ++ header ++ rest) ∧
    (sync.length = 4 ∧ n2hSyncPatternMatch txSeqNum sync = true ∧
      Quiet (n2hSyncPatternMatch txSeqNum) 4 before.length (first ++ shown)) ∧
    (∀ double ∈ doubles, double.length = 4 ∧ n2hSyncPatternMatch txSeqNum double = true) ∧
    header.length = 8 ∧ n2hSyncPatternMatch txSeqNum (header.take 4) = false

-- The reader that looks at 8 bytes at a time finds the header that is on the
-- wire, wherever it starts, and reads no byte past it; what lies on the stack
-- past its buffer never counts.
theorem rx_hdr_read_iff (txSeqNum next : BitVec 8) (stack input header rest : List Byte) :
    drvRxHdrRead txSeqNum stack input = some (header, next, rest) ↔ next = txSeqNum + 1 ∧ Framed txSeqNum input header rest := by
  unfold drvRxHdrRead
  simp only [Option.bind_eq_some_iff]
  constructor
  · intro ran
    obtain ⟨⟨pBuf, left⟩, started, ⟨found, later⟩, searched, read⟩ := ran
    obtain ⟨first, top, repeats, rfl, shape, size, repeated, topSize, other⟩ := (read_first_words_iff _ _ _).mp started
    rw [search_sync txSeqNum stack _ _ _ (by rw [List.length_append]; omega) (Nat.lt_succ_self _)] at searched
    obtain ⟨after, located, word⟩ := Option.bind_eq_some_iff.mp searched
    obtain ⟨before, sync, located, syncSize, hits, quiet⟩ := (Base.first_after_iff (by omega) _ _).mp located
    obtain ⟨rfl, foundSize⟩ := (Base.read_exact_iff 4 after found later).mp word
    obtain ⟨rfl, doubles, tail, double, whole, stops⟩ := (read_header_iff _ _ _ _ _ _ foundSize).mp read
    refine ⟨rfl, first, top ++ left, before, sync, repeats, doubles, shape, ⟨size, repeated, ?_, ?_⟩, ?_, ⟨syncSize, hits, ?_⟩,
      double, whole, stops⟩
    · rw [List.length_append]
      omega
    · rwa [← topSize, List.take_left]
    · rw [← List.append_assoc, located, tail]
    · rwa [← List.append_assoc]
  · intro parts
    obtain ⟨rfl, first, shown, before, sync, repeats, doubles, shape, ⟨size, repeated, enough, other⟩, located,
      ⟨syncSize, hits, quiet⟩, double, whole, stops⟩ := parts
    have parted : shown.take 4 ++ shown.drop 4 = shown := List.take_append_drop 4 shown
    have topSize : (shown.take 4).length = 4 := List.length_take_of_le enough
    have tailSize : 4 ≤ (doubles.flatten ++ header ++ rest).length := by
      simp only [List.length_append]
      omega
    refine ⟨(first ++ shown.take 4, shown.drop 4), ?_,
      ((doubles.flatten ++ header ++ rest).take 4, (doubles.flatten ++ header ++ rest).drop 4), ?_, ?_⟩
    · exact (read_first_words_iff _ _ _).mpr ⟨first, shown.take 4, repeats, rfl, by rw [parted, shape], size, repeated, topSize, other⟩
    · rw [search_sync txSeqNum stack _ _ _ (by rw [List.length_append]; omega) (Nat.lt_succ_self _), List.append_assoc, parted]
      refine Option.bind_eq_some_iff.mpr ⟨doubles.flatten ++ header ++ rest, ?_, ?_⟩
      · exact (Base.first_after_iff (by omega) _ _).mpr ⟨before, sync, located, syncSize, hits, quiet⟩
      · exact (Base.read_exact_iff 4 _ _ _).mpr ⟨(List.take_append_drop 4 _).symm, List.length_take_of_le tailSize⟩
    · refine (read_header_iff _ _ _ _ _ _ (List.length_take_of_le tailSize)).mpr ⟨rfl, doubles, ?_, double, whole, stops⟩
      exact List.take_append_drop 4 _

theorem repeats_split (first : List Byte) (words : List (List Byte)) :
    ∃ repeats others, words = repeats ++ others ∧ (∀ other ∈ repeats, other = first) ∧ others.head? ≠ some first := by
  induction words with
  | nil => exact ⟨[], [], rfl, fun other member => absurd member List.not_mem_nil, by simp⟩
  | cons word later ih =>
      by_cases same : word = first
      · obtain ⟨repeats, others, shape, repeated, different⟩ := ih
        refine ⟨word :: repeats, others, by rw [shape]; rfl, fun other member => ?_, different⟩
        rcases List.mem_cons.mp member with rfl | inside
        · exact same
        · exact repeated other inside
      · exact ⟨[], word :: later, rfl, fun other member => absurd member List.not_mem_nil, by simpa using same⟩

theorem flatten_repeats (word : List Byte) (repeats : List (List Byte)) (repeated : ∀ other ∈ repeats, other = word) :
    word ++ repeats.flatten = repeats.flatten ++ word := by
  rw [List.eq_replicate_of_mem repeated]
  generalize repeats.length = count
  induction count with
  | zero => simp
  | succ count ih => rw [List.replicate_succ, List.flatten_cons, List.append_assoc, ← ih]

-- Words that a message left unread do not hide the header after them, where no
-- window over them and the next pattern matches.
theorem framed_after_words (txSeqNum : BitVec 8) (noise doubles : List (List Byte)) (sync header rest : List Byte)
    (words : ∀ word ∈ noise, word.length = 4) (syncSize : sync.length = 4) (hits : n2hSyncPatternMatch txSeqNum sync = true)
    (quiet : Quiet (n2hSyncPatternMatch txSeqNum) 4 noise.flatten.length (noise.flatten ++ sync))
    (double : ∀ word ∈ doubles, word.length = 4 ∧ n2hSyncPatternMatch txSeqNum word = true)
    (whole : header.length = 8) (stops : n2hSyncPatternMatch txSeqNum (header.take 4) = false) :
    Framed txSeqNum (noise.flatten ++ sync ++ (doubles.flatten ++ header ++ rest)) header rest := by
  cases noise with
  | nil =>
      obtain ⟨repeats, others, rfl, repeated, different⟩ := repeats_split sync doubles
      refine ⟨sync, others.flatten ++ header ++ rest, [], sync, repeats, others, ?_, ⟨syncSize, repeated, ?_, ?_⟩, rfl,
        ⟨syncSize, hits, fun offset before => absurd before (Nat.not_lt_zero _)⟩,
        fun word member => double word (List.mem_append_right repeats member), whole, stops⟩
      · simp only [List.flatten_nil, List.nil_append, List.flatten_append, List.append_assoc]
      · simp only [List.length_append]
        omega
      · intro same
        cases others with
        | nil =>
            rw [List.flatten_nil, List.nil_append, List.take_append_of_le_length (by omega)] at same
            rw [same, hits] at stops
            cases stops
        | cons head tail =>
            have size := (double head (List.mem_append_right repeats List.mem_cons_self)).1
            rw [List.flatten_cons, List.append_assoc, List.append_assoc, ← size, List.take_left] at same
            exact different (congrArg some same)
  | cons first later =>
      obtain ⟨repeats, others, rfl, repeated, different⟩ := repeats_split first later
      have size : first.length = 4 := words first List.mem_cons_self
      have silent : n2hSyncPatternMatch txSeqNum first = false := by
        have here := quiet 0 (by rw [List.flatten_cons, List.length_append]; omega) (by simp only [List.length_append]; omega)
        rwa [List.drop_zero, List.flatten_cons, List.append_assoc, ← size, List.take_left] at here
      have input : (first :: (repeats ++ others)).flatten = repeats.flatten ++ (first ++ others.flatten) := by
        rw [List.flatten_cons, List.flatten_append, ← List.append_assoc, flatten_repeats first repeats repeated, List.append_assoc]
      refine ⟨first, others.flatten ++ sync ++ (doubles.flatten ++ header ++ rest), first ++ others.flatten, sync, repeats, doubles,
        ?_, ⟨size, repeated, ?_, ?_⟩, by simp only [List.append_assoc], ⟨syncSize, hits, ?_⟩, double, whole, stops⟩
      · rw [List.flatten_cons, List.flatten_append]
        simp only [List.append_assoc]
      · simp only [List.length_append]
        omega
      · intro same
        cases others with
        | nil =>
            rw [List.flatten_nil, List.nil_append, ← syncSize, List.take_left] at same
            rw [← same, hits] at silent
            cases silent
        | cons head tail =>
            have headSize := words head (List.mem_cons_of_mem first (List.mem_append_right repeats List.mem_cons_self))
            rw [List.flatten_cons, List.append_assoc, List.append_assoc, ← headSize, List.take_left] at same
            exact different (congrArg some same)
      · intro offset before _
        rw [input] at quiet
        have here := quiet (repeats.flatten.length + offset) (by rw [List.length_append]; omega)
          (by simp only [List.length_append] at before ⊢; omega)
        rw [List.append_assoc, ← List.drop_drop, List.drop_left] at here
        have shape : first ++ (others.flatten ++ sync ++ (doubles.flatten ++ header ++ rest)) =
            (first ++ others.flatten ++ sync) ++ (doubles.flatten ++ header ++ rest) := by simp only [List.append_assoc]
        have bound : offset + 4 ≤ (first ++ others.flatten ++ sync).length := by
          rw [List.length_append]
          omega
        rwa [shape, List.drop_append_of_le_length (by omega), List.take_append_of_le_length (by rw [List.length_drop]; omega)]

end Miso.SlDrv
