import ArrayWatch.Wire.Framing
import Mathlib.Data.List.TakeWhile

/-!
# Messages of a byte stream

The bytes of a connection come in chunks that end anywhere. A reader that takes every message it
can after each chunk gets the same messages as one that is given all bytes at once, and they are
the ones of the lines that the bytes consist of.

* `lines` and `tail` cut a byte string at its line feeds: `lines_line_append` and `tail_append` say
  what more bytes do to them.
* `drain_isReading`: what is taken from one buffer.
* `feed_isReading`: what one more chunk adds, whatever was read before.
* `readChunks_eq_lines`: the messages, the failure and the rest, for every way to cut the bytes.
-/

namespace ArrayWatch

/-! ## Blank lines are no messages -/

theorem Text.isBlank_of_trim_eq_nil {cs : List Char} (h : Text.trim cs = []) :
    ∀ c ∈ cs, Text.isBlank c = true := by
  unfold Text.trim Text.trimWhile Text.trimEndWhile at h
  rw [List.reverse_eq_nil_iff, List.dropWhile_eq_nil_iff] at h
  have hdrop : cs.dropWhile Text.isBlank = [] := by
    cases hd : cs.dropWhile Text.isBlank with
    | nil => rfl
    | cons c rest =>
      have hc := h c (by simp [hd])
      have hne := List.head?_dropWhile_not Text.isBlank cs
      simp [hd, hc] at hne
  exact List.dropWhile_eq_nil_iff.1 hdrop

/-- There is no separator in a piece between separators. -/
theorem Text.not_of_mem_splitOnP {p : Char → Bool} {cs w : List Char} (hw : w ∈ cs.splitOnP p) :
    ∀ c ∈ w, p c = false := by
  induction cs generalizing w with
  | nil => simp_all
  | cons d rest ih =>
    rw [List.splitOnP_cons_eq_if_modifyHead] at hw
    split at hw
    · rcases List.mem_cons.1 hw with rfl | hw
      · simp
      · exact ih hw
    · rename_i hd
      obtain ⟨head, tail, htail⟩ := List.exists_cons_of_ne_nil (List.splitOnP_ne_nil p rest)
      rw [htail, List.modifyHead_cons] at hw
      rcases List.mem_cons.1 hw with rfl | hw
      · intro c hc
        rcases List.mem_cons.1 hc with rfl | hc
        · simpa using hd
        · exact ih (by rw [htail]; exact List.mem_cons_self) c hc
      · exact ih (by rw [htail]; exact List.mem_cons_of_mem _ hw)

namespace Line

theorem mem_of_mem_splitOnP {p : Char → Bool} {cs w : List Char} {c : Char}
    (hw : w ∈ cs.splitOnP p) (hc : c ∈ w) : c ∈ cs := by
  induction cs generalizing w with
  | nil =>
    simp only [List.splitOnP_nil, List.mem_singleton] at hw
    simp [hw] at hc
  | cons d rest ih =>
    rw [List.splitOnP_cons_eq_if_modifyHead] at hw
    split at hw
    · rcases List.mem_cons.1 hw with rfl | hw
      · simp at hc
      · exact List.mem_cons_of_mem _ (ih hw hc)
    · obtain ⟨head, tail, htail⟩ := List.exists_cons_of_ne_nil (List.splitOnP_ne_nil p rest)
      rw [htail, List.modifyHead_cons] at hw
      rcases List.mem_cons.1 hw with rfl | hw
      · rcases List.mem_cons.1 hc with rfl | hc
        · simp
        · exact List.mem_cons_of_mem _ (ih (by rw [htail]; simp) hc)
      · exact List.mem_cons_of_mem _ (ih (by rw [htail]; simp [hw]) hc)

theorem mem_of_mem_words {cs w : List Char} {c : Char} (hw : w ∈ words cs) (hc : c ∈ w) :
    c ∈ cs :=
  mem_of_mem_splitOnP (List.mem_filter.1 hw).1 hc

theorem ofTypeChar?_of_isBlank {c : Char} (h : Text.isBlank c = true) :
    MessageKind.ofTypeChar? c = none := by
  cases hk : MessageKind.ofTypeChar? c with
  | none => rfl
  | some kind =>
    rw [MessageKind.ofTypeChar?_eq_some_iff] at hk
    subst hk
    cases kind <;> contradiction

/-- A line of blank characters is no message. -/
theorem parse_of_isBlank {cs : List Char} (h : ∀ c ∈ cs, Text.isBlank c = true) :
    ∃ e, parse cs = .error e := by
  unfold parse
  cases hw : words cs with
  | nil => exact ⟨_, rfl⟩
  | cons head args =>
    have hhead : head.head?.bind MessageKind.ofTypeChar? = none := by
      cases head with
      | nil => rfl
      | cons c rest =>
        exact ofTypeChar?_of_isBlank (h c (mem_of_mem_words (hw ▸ List.mem_cons_self) (by simp)))
    exact ⟨.badKind (.ofList head), by simp only [hhead]⟩

end Line

namespace LineReader

/-- The test for blank lines decides nothing that reading the line does not decide. -/
theorem lineMessage?_eq_parse (line : List UInt8) :
    lineMessage? line = (Line.parse (lineText line)).toOption := by
  unfold lineMessage?
  dsimp only
  split
  · rename_i hblank
    obtain ⟨e, he⟩ :=
      Line.parse_of_isBlank (Text.isBlank_of_trim_eq_nil (List.isEmpty_iff.1 hblank))
    rw [he]
    rfl
  · rfl

/-! ## Lines of a byte string -/

/-- The lines of a byte string, each up to its line feed. -/
def lines (bytes : List UInt8) : List (List UInt8) :=
  (bytes.splitOn lineFeed).dropLast

/-- The bytes after the last line feed. -/
def tail (bytes : List UInt8) : List UInt8 :=
  (bytes.splitOn lineFeed).getLast (List.splitOn_ne_nil _ _)

theorem lines_of_not_mem {bytes : List UInt8} (h : lineFeed ∉ bytes) : lines bytes = [] := by
  simp [lines, List.splitOn_eq_singleton h]

theorem tail_of_not_mem {bytes : List UInt8} (h : lineFeed ∉ bytes) : tail bytes = bytes := by
  simp [tail, List.splitOn_eq_singleton h]

theorem lines_line_append {line : List UInt8} (h : lineFeed ∉ line) (rest : List UInt8) :
    lines (line ++ lineFeed :: rest) = line :: lines rest := by
  rw [lines, List.splitOn_append_cons_self_of_not_mem h,
    List.dropLast_cons_of_ne_nil (List.splitOn_ne_nil _ _)]
  rfl

theorem tail_line_append {line : List UInt8} (h : lineFeed ∉ line) (rest : List UInt8) :
    tail (line ++ lineFeed :: rest) = tail rest := by
  simp only [tail, List.splitOn_append_cons_self_of_not_mem h]
  exact List.getLast_cons (List.splitOn_ne_nil _ _)

/-- A byte string has no line feed, or it is a line and the bytes after it. -/
theorem not_mem_or_eq_line_append (bytes : List UInt8) :
    lineFeed ∉ bytes ∨ ∃ line rest, lineFeed ∉ line ∧ bytes = line ++ lineFeed :: rest := by
  by_cases h : lineFeed ∈ bytes
  · obtain ⟨line, rest, heq, hline⟩ := List.eq_append_cons_of_mem h
    exact .inr ⟨line, rest, hline, heq⟩
  · exact .inl h

/-- Induction on the lines of a byte string. -/
theorem line_induction {P : List UInt8 → Prop} (hrest : ∀ bytes, lineFeed ∉ bytes → P bytes)
    (hline : ∀ line rest, lineFeed ∉ line → P rest → P (line ++ lineFeed :: rest))
    (bytes : List UInt8) : P bytes := by
  induction hn : bytes.length using Nat.strongRecOn generalizing bytes with
  | ind n ih =>
    rcases not_mem_or_eq_line_append bytes with h | ⟨line, rest, h, rfl⟩
    · exact hrest bytes h
    · refine hline line rest h (ih rest.length ?_ rest rfl)
      simp only [List.length_append, List.length_cons] at hn
      omega

theorem not_mem_tail (bytes : List UInt8) : lineFeed ∉ tail bytes := by
  induction bytes using line_induction with
  | hrest bytes h => rwa [tail_of_not_mem h]
  | hline line rest h ih => rwa [tail_line_append h]

theorem tail_append (bytes more : List UInt8) :
    tail (bytes ++ more) = tail (tail bytes ++ more) := by
  induction bytes using line_induction with
  | hrest bytes h => rw [tail_of_not_mem h]
  | hline line rest h ih =>
    rw [List.append_assoc, List.cons_append, tail_line_append h, tail_line_append h, ih]

/-- Bytes without a line feed stay at the start of the first line, or of the tail. -/
theorem prefix_of_not_mem {bytes : List UInt8} (h : lineFeed ∉ bytes) (more : List UInt8) :
    (lines (bytes ++ more) = [] ∧ bytes <+: tail (bytes ++ more)) ∨
      ∃ line rest, lines (bytes ++ more) = line :: rest ∧ bytes <+: line := by
  rcases not_mem_or_eq_line_append more with hmore | ⟨line, rest, hline, rfl⟩
  · have hboth : lineFeed ∉ bytes ++ more := by simp [h, hmore]
    exact .inl ⟨lines_of_not_mem hboth, by
      rw [tail_of_not_mem hboth]
      exact List.prefix_append _ _⟩
  · have hboth : lineFeed ∉ bytes ++ line := by simp [h, hline]
    refine .inr ⟨bytes ++ line, lines rest, ?_, List.prefix_append _ _⟩
    rw [← List.append_assoc, lines_line_append hboth]

/-! ## Cutting a line off -/

/-- A reader has not passed over the end of a line. -/
def Searched (searched : Nat) (buffer : List UInt8) : Prop := lineFeed ∉ buffer.take searched

theorem cutLine_eq_none {searched : Nat} {buffer : List UInt8} (h : Searched searched buffer)
    (hcut : cutLine searched buffer = none) : lineFeed ∉ buffer := by
  unfold cutLine at hcut
  dsimp only at hcut
  split at hcut
  · rename_i hdrop
    rw [List.dropWhile_eq_nil_iff] at hdrop
    intro hmem
    rw [← List.take_append_drop searched buffer, List.mem_append] at hmem
    rcases hmem with hmem | hmem
    · exact h hmem
    · simpa using hdrop lineFeed hmem
  · contradiction

theorem cutLine_eq_some {searched : Nat} {buffer line rest : List UInt8}
    (h : Searched searched buffer) (hcut : cutLine searched buffer = some (line, rest)) :
    lineFeed ∉ line ∧ buffer = line ++ lineFeed :: rest := by
  unfold cutLine at hcut
  dsimp only at hcut
  split at hcut
  · contradiction
  · rename_i b after hdrop
    simp only [Option.some.injEq, Prod.mk.injEq] at hcut
    obtain ⟨rfl, rfl⟩ := hcut
    have hb : b = lineFeed := by
      have hne := List.head?_dropWhile_not (· != lineFeed) (buffer.drop searched)
      simpa [hdrop] using hne
    subst hb
    constructor
    · intro hmem
      rcases List.mem_append.1 hmem with hmem | hmem
      · exact h hmem
      · simpa using List.mem_takeWhile_imp hmem
    · rw [List.append_assoc, ← hdrop, List.takeWhile_append_dropWhile, List.take_append_drop]

theorem searched_zero (buffer : List UInt8) : Searched 0 buffer := by simp [Searched]

/-- After a search to the end of a buffer nothing of it has to be searched again. -/
theorem searched_length_append {buffer : List UInt8} (h : lineFeed ∉ buffer)
    (more : List UInt8) : Searched buffer.length (buffer ++ more) := by
  simpa [Searched] using h

/-! ## Taking every message from a buffer -/

theorem decode_length_lt {reader next : LineReader} {buffer rest : List UInt8} {m : Message}
    (h : decode reader buffer = (.ok (some m), next, rest)) : rest.length < buffer.length := by
  induction hn : buffer.length using Nat.strongRecOn generalizing reader buffer with
  | ind n ih =>
    rw [decode] at h
    split at h
    · split at h <;> simp at h
    · rename_i line after hcut
      have hlt := cutLine_length_lt hcut
      dsimp only at h
      split at h
      · simp at h
      · split at h
        · simp only [Prod.mk.injEq] at h
          obtain ⟨-, -, rfl⟩ := h
          omega
        · have := ih after.length (by omega) h rfl
          omega

/-- What has been taken from a stream: the messages, the failure that ended it, if there was one,
and the reader with the bytes that are left. -/
structure Reading where
  messages : List Message
  failure : Option WireError
  reader : LineReader
  left : List UInt8
  deriving DecidableEq, Repr

/-- Takes messages from a buffer until none is complete or a failure ends the stream. -/
def drain (reader : LineReader) (buffer : List UInt8) : Reading :=
  match _h : decode reader buffer with
  | (.ok (some m), next, rest) =>
    let reading := drain next rest
    { reading with messages := m :: reading.messages }
  | (.ok none, next, rest) => ⟨[], none, next, rest⟩
  | (.error e, next, rest) => ⟨[], some e, next, rest⟩
termination_by buffer.length
decreasing_by exact decode_length_lt _h

/-- The messages of the lines before the first one that is too long. -/
def messagesWithin (limit : Nat) (bytes : List UInt8) : List Message :=
  ((lines bytes).takeWhile fun line => line.length ≤ limit).filterMap fun line =>
    (Line.parse (lineText line)).toOption

/-- A line, or what has come of one, is longer than the limit. -/
def Overlong (limit : Nat) (bytes : List UInt8) : Prop :=
  ∃ line ∈ lines bytes ++ [tail bytes], limit < line.length

instance (limit : Nat) (bytes : List UInt8) : Decidable (Overlong limit bytes) :=
  inferInstanceAs (Decidable (∃ line ∈ lines bytes ++ [tail bytes], limit < line.length))

/-- What is to be taken from a stream of these bytes. -/
structure Reading.Of (limit : Nat) (bytes : List UInt8) (r : Reading) : Prop where
  messages : r.messages = messagesWithin limit bytes
  failure : r.failure = if Overlong limit bytes then some (.lineTooLong limit) else none
  left : ¬ Overlong limit bytes → r.left = tail bytes ∧ r.reader = ⟨limit, (tail bytes).length⟩

theorem drain_of_message {reader next : LineReader} {buffer rest : List UInt8} {m : Message}
    (h : decode reader buffer = (.ok (some m), next, rest)) :
    drain reader buffer = { drain next rest with messages := m :: (drain next rest).messages } := by
  rw [drain]
  split <;> simp_all

theorem drain_of_incomplete {reader next : LineReader} {buffer rest : List UInt8}
    (h : decode reader buffer = (.ok none, next, rest)) :
    drain reader buffer = ⟨[], none, next, rest⟩ := by
  rw [drain]
  split <;> simp_all

theorem drain_of_failure {reader next : LineReader} {buffer rest : List UInt8} {e : WireError}
    (h : decode reader buffer = (.error e, next, rest)) :
    drain reader buffer = ⟨[], some e, next, rest⟩ := by
  rw [drain]
  split <;> simp_all

theorem decode_of_cutLine_none {reader : LineReader} {buffer : List UInt8}
    (h : cutLine reader.searched buffer = none) :
    decode reader buffer = if reader.limit < buffer.length then
      (.error (.lineTooLong reader.limit), reader, buffer)
      else (.ok none, { reader with searched := buffer.length }, buffer) := by
  rw [decode]
  split
  · rfl
  · simp_all

theorem decode_of_cutLine_some {reader : LineReader} {buffer line rest : List UInt8}
    (h : cutLine reader.searched buffer = some (line, rest)) :
    decode reader buffer = if reader.limit < line.length then
      (.error (.lineTooLong reader.limit), ⟨reader.limit, 0⟩, rest)
      else match lineMessage? line with
        | some message => (.ok (some message), ⟨reader.limit, 0⟩, rest)
        | none => decode ⟨reader.limit, 0⟩ rest := by
  rw [decode]
  split
  · simp_all
  · rename_i line' rest' hcut
    rw [h] at hcut
    obtain ⟨rfl, rfl⟩ := hcut
    rfl

/-- A line that is not too long gives its message, if it has one, and the rest is taken as by a new
reader. -/
theorem drain_of_cutLine_some {reader : LineReader} {buffer line rest : List UInt8}
    (h : cutLine reader.searched buffer = some (line, rest)) (hlen : line.length ≤ reader.limit) :
    drain reader buffer =
      { drain (new reader.limit) rest with
        messages := (lineMessage? line).toList ++ (drain (new reader.limit) rest).messages } := by
  have hd := decode_of_cutLine_some h
  rw [if_neg (Nat.not_lt.2 hlen)] at hd
  cases hm : lineMessage? line with
  | some m =>
    simp only [hm] at hd
    exact drain_of_message hd
  | none =>
    simp only [hm] at hd
    simp only [Option.toList_none, List.nil_append]
    -- the line is passed over, so both readers go on from the same place
    rcases hnext : decode (new reader.limit) rest with ⟨result | result, next, left⟩
    · rw [drain_of_failure (hd.trans hnext), drain_of_failure hnext]
    · cases result with
      | none => rw [drain_of_incomplete (hd.trans hnext), drain_of_incomplete hnext]
      | some m => rw [drain_of_message (hd.trans hnext), drain_of_message hnext]

/-! ## What is taken from one buffer -/

theorem messagesWithin_of_not_mem {limit : Nat} {bytes : List UInt8} (h : lineFeed ∉ bytes) :
    messagesWithin limit bytes = [] := by
  simp [messagesWithin, lines_of_not_mem h]

theorem overlong_of_not_mem (limit : Nat) {bytes : List UInt8} (h : lineFeed ∉ bytes) :
    Overlong limit bytes ↔ limit < bytes.length := by
  simp [Overlong, lines_of_not_mem h, tail_of_not_mem h]

theorem messagesWithin_line_append (limit : Nat) {line : List UInt8} (h : lineFeed ∉ line)
    (rest : List UInt8) :
    messagesWithin limit (line ++ lineFeed :: rest) =
      if limit < line.length then []
      else (lineMessage? line).toList ++ messagesWithin limit rest := by
  rw [messagesWithin, lines_line_append h, lineMessage?_eq_parse]
  split
  · rename_i hlong
    rw [List.takeWhile_cons_of_neg (by simpa using hlong), List.filterMap_nil]
  · rename_i hshort
    rw [List.takeWhile_cons_of_pos (by simpa using hshort), List.filterMap_cons]
    cases (Line.parse (lineText line)).toOption <;> rfl

theorem overlong_line_append (limit : Nat) {line : List UInt8} (h : lineFeed ∉ line)
    (rest : List UInt8) :
    Overlong limit (line ++ lineFeed :: rest) ↔ limit < line.length ∨ Overlong limit rest := by
  simp [Overlong, lines_line_append h, tail_line_append h]

theorem drain_isReading {reader : LineReader} {buffer : List UInt8}
    (h : Searched reader.searched buffer) : (drain reader buffer).Of reader.limit buffer := by
  induction hn : buffer.length using Nat.strongRecOn generalizing reader buffer with
  | ind n ih =>
    cases hcut : cutLine reader.searched buffer with
    | none =>
      have hmem := cutLine_eq_none h hcut
      have hlong := overlong_of_not_mem reader.limit hmem
      have hd := decode_of_cutLine_none hcut
      by_cases hlt : reader.limit < buffer.length
      · rw [if_pos hlt] at hd
        rw [drain_of_failure hd]
        exact ⟨(messagesWithin_of_not_mem hmem).symm, (if_pos (hlong.2 hlt)).symm,
          fun hshort => absurd (hlong.2 hlt) hshort⟩
      · rw [if_neg hlt] at hd
        rw [drain_of_incomplete hd]
        refine ⟨(messagesWithin_of_not_mem hmem).symm, (if_neg (hlt ∘ hlong.1)).symm, fun _ => ?_⟩
        rw [tail_of_not_mem hmem]
        exact ⟨rfl, rfl⟩
    | some cut =>
      obtain ⟨line, rest⟩ := cut
      obtain ⟨hline, rfl⟩ := cutLine_eq_some h hcut
      have hlong := overlong_line_append reader.limit hline rest
      have hmessages := messagesWithin_line_append reader.limit hline rest
      by_cases hlt : reader.limit < line.length
      · have hd := decode_of_cutLine_some hcut
        rw [if_pos hlt] at hd hmessages
        rw [drain_of_failure hd]
        exact ⟨hmessages.symm, (if_pos (hlong.2 (.inl hlt))).symm,
          fun hshort => absurd (hlong.2 (.inl hlt)) hshort⟩
      · rw [if_neg hlt] at hmessages
        have hrest : Overlong reader.limit (line ++ lineFeed :: rest) ↔
            Overlong reader.limit rest :=
          hlong.trans (or_iff_right hlt)
        have hread : (drain (new reader.limit) rest).Of reader.limit rest :=
          @ih rest.length (by simp at hn; omega) (new reader.limit) rest (searched_zero rest) rfl
        rw [drain_of_cutLine_some hcut (Nat.not_lt.1 hlt)]
        refine ⟨?_, ?_, fun hshort => ?_⟩
        · rw [hmessages, hread.messages]
        · rw [hread.failure]
          simp only [hrest]
        · rw [tail_line_append hline]
          exact hread.left fun hover => hshort (hrest.2 hover)

/-! ## What one more chunk adds -/

/-- Takes what can be taken after more bytes have come. Nothing is taken after a failure. -/
def Reading.feed (r : Reading) (chunk : List UInt8) : Reading :=
  match r.failure with
  | some _ => r
  | none =>
    let next := drain r.reader (r.left ++ chunk)
    { next with messages := r.messages ++ next.messages }

/-- Reads a stream that comes in chunks. -/
def readChunks (limit : Nat) (chunks : List (List UInt8)) : Reading :=
  chunks.foldl Reading.feed ⟨[], none, new limit, []⟩

/-- Once a line is too long, more bytes bring no message and do not make it short. -/
theorem of_append_of_overlong {limit : Nat} {bytes : List UInt8} (h : Overlong limit bytes)
    (more : List UInt8) :
    messagesWithin limit (bytes ++ more) = messagesWithin limit bytes ∧
      Overlong limit (bytes ++ more) := by
  induction bytes using line_induction with
  | hrest bytes hmem =>
    rw [overlong_of_not_mem limit hmem] at h
    rw [messagesWithin_of_not_mem hmem, messagesWithin, Overlong]
    rcases prefix_of_not_mem hmem more with ⟨hlines, hpre⟩ | ⟨line, rest, hlines, hpre⟩
    · have hlen : limit < (tail (bytes ++ more)).length := Nat.lt_of_lt_of_le h hpre.length_le
      simp [hlines, hlen]
    · have hlen : limit < line.length := Nat.lt_of_lt_of_le h hpre.length_le
      simp [hlines, hlen]
  | hline line rest hline ih =>
    rw [List.append_assoc, List.cons_append, messagesWithin_line_append limit hline,
      messagesWithin_line_append limit hline, overlong_line_append limit hline]
    by_cases hlt : limit < line.length
    · simp [hlt]
    · obtain ⟨hmessages, hlong⟩ :=
        ih (((overlong_line_append limit hline rest).1 h).resolve_left hlt)
      exact ⟨by rw [hmessages], .inr hlong⟩

/-- While no line is too long, more bytes go on from the tail. -/
theorem of_append_of_not_overlong {limit : Nat} {bytes : List UInt8} (h : ¬ Overlong limit bytes)
    (more : List UInt8) :
    messagesWithin limit (bytes ++ more) =
        messagesWithin limit bytes ++ messagesWithin limit (tail bytes ++ more) ∧
      (Overlong limit (bytes ++ more) ↔ Overlong limit (tail bytes ++ more)) := by
  induction bytes using line_induction with
  | hrest bytes hmem => simp [tail_of_not_mem hmem, messagesWithin_of_not_mem hmem]
  | hline line rest hline ih =>
    rw [overlong_line_append limit hline, not_or] at h
    obtain ⟨hmessages, hlong⟩ := ih h.2
    rw [List.append_assoc, List.cons_append, messagesWithin_line_append limit hline,
      messagesWithin_line_append limit hline, overlong_line_append limit hline,
      tail_line_append hline, if_neg h.1, if_neg h.1, hmessages, List.append_assoc]
    exact ⟨rfl, (or_iff_right h.1).trans hlong⟩

theorem feed_isReading {limit : Nat} {bytes : List UInt8} {r : Reading} (h : r.Of limit bytes)
    (chunk : List UInt8) : (r.feed chunk).Of limit (bytes ++ chunk) := by
  by_cases hover : Overlong limit bytes
  · obtain ⟨hmessages, hlong⟩ := of_append_of_overlong hover chunk
    have hfeed : r.feed chunk = r := by simp [Reading.feed, h.failure, hover]
    rw [hfeed]
    exact ⟨h.messages.trans hmessages.symm, by simp [h.failure, hover, hlong],
      fun hshort => absurd hlong hshort⟩
  · obtain ⟨hmessages, hlong⟩ := of_append_of_not_overlong hover chunk
    obtain ⟨hleft, hreader⟩ := h.left hover
    have hfeed : r.feed chunk =
        { drain r.reader (r.left ++ chunk) with
          messages := r.messages ++ (drain r.reader (r.left ++ chunk)).messages } := by
      simp [Reading.feed, h.failure, hover]
    rw [hfeed, hleft, hreader]
    have hread : (drain ⟨limit, (tail bytes).length⟩ (tail bytes ++ chunk)).Of limit
        (tail bytes ++ chunk) :=
      @drain_isReading ⟨limit, (tail bytes).length⟩ _
        (searched_length_append (not_mem_tail bytes) chunk)
    refine ⟨?_, ?_, fun hshort => ?_⟩
    · rw [hmessages, h.messages, hread.messages]
    · rw [hread.failure]
      simp only [hlong]
    · rw [tail_append]
      exact hread.left fun hlater => hshort (hlong.2 hlater)

theorem readChunks_isReading (limit : Nat) (chunks : List (List UInt8)) :
    (readChunks limit chunks).Of limit chunks.flatten := by
  suffices ∀ (r : Reading) (bytes : List UInt8), r.Of limit bytes →
      (chunks.foldl Reading.feed r).Of limit (bytes ++ chunks.flatten) from
    this _ [] ⟨rfl, rfl, fun _ => ⟨rfl, rfl⟩⟩
  induction chunks with
  | nil =>
    intro r bytes h
    simpa using h
  | cons chunk rest ih =>
    intro r bytes h
    rw [List.foldl_cons, List.flatten_cons, ← List.append_assoc]
    exact ih _ _ (feed_isReading h chunk)

/-- However the bytes of a stream are cut into chunks, the messages that are read are those of the
lines before the first one, or the tail, that is too long. There is a failure just where there is
such a line, and otherwise the tail is what is left. So it is the same as to read all bytes at
once. -/
theorem readChunks_eq_lines (limit : Nat) (chunks : List (List UInt8)) :
    let bytes := chunks.flatten
    let r := readChunks limit chunks
    r.messages = messagesWithin limit bytes ∧
      r.failure = (if Overlong limit bytes then some (.lineTooLong limit) else none) ∧
      (r.failure = none → r.left = tail bytes) ∧
      r.messages = (readChunks limit [bytes]).messages ∧
      r.failure = (readChunks limit [bytes]).failure := by
  intro bytes r
  have hr : r.Of limit bytes := readChunks_isReading limit chunks
  have hwhole : (readChunks limit [bytes]).Of limit bytes := by
    simpa using readChunks_isReading limit [bytes]
  refine ⟨hr.messages, hr.failure, fun hnone => ?_, hr.messages.trans hwhole.messages.symm,
    hr.failure.trans hwhole.failure.symm⟩
  refine (hr.left fun hover => ?_).1
  rw [hr.failure, if_pos hover] at hnone
  contradiction

end LineReader

end ArrayWatch
