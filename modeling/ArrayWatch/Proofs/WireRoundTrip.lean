import ArrayWatch.Proofs.LineStream
import ArrayWatch.Proofs.Utf8Coding

/-!
# Messages there and back

A message that is written as a line is read back from it, if its name can stand in a line as it is:
not empty, without separators and line feeds, and without a carriage return at the very end of the
line. The arguments are escaped, so that any text will do. A message whose name is otherwise is not
read back, whatever else may be read from its line.

* `Line.words_write`: the words of a line that is written.
* `Line.parse_write`: such a line is read back.
* `LineReader.name_of_mem_messagesWithin`: the names that can be read at all.
* `LineReader.legible_read_back`: lists of messages, and the messages that are not read back.
-/

namespace ArrayWatch

/-- The name of the message can stand in a line as it is. -/
def Message.Legible (m : Message) : Prop :=
  match m.words with
  | [] => False
  | name :: args =>
    name ≠ "" ∧ (∀ c ∈ name.toList, c ≠ ' ' ∧ c ≠ '\t' ∧ c ≠ '\n') ∧
      (args = [] → name.toList.getLast? ≠ some '\r')

instance : DecidablePred Message.Legible
  | ⟨_, []⟩ => .isFalse id
  | ⟨_, name :: args⟩ =>
    -- The characters of the name are gone through, not all the characters there are.
    have : Decidable (∀ c ∈ name.toList, c ≠ ' ' ∧ c ≠ '\t' ∧ c ≠ '\n') :=
      List.decidableBAll _ name.toList
    inferInstanceAs (Decidable (name ≠ "" ∧ (∀ c ∈ name.toList, c ≠ ' ' ∧ c ≠ '\t' ∧ c ≠ '\n') ∧
      (args = [] → name.toList.getLast? ≠ some '\r')))

/-- The line of the message, without the line feed, has at most as many bytes as the limit says. -/
def Message.Fits (limit : Nat) (m : Message) : Prop :=
  ∃ line, Line.write m = .ok line ∧ (Utf8.encode line).length ≤ limit

/-- Writes messages one after the other into an empty buffer. -/
def Message.encodeAll (messages : List Message) : Except WireError (List UInt8) :=
  messages.foldlM (fun buffer m => m.encode.map (buffer ++ ·)) []

namespace Line

/-! ## Words -/

theorem isSeparator_eq_false {c : Char} : isSeparator c = false ↔ c ≠ ' ' ∧ c ≠ '\t' := by
  simp [isSeparator]

theorem words_of_forall {w : List Char} (h : ∀ c ∈ w, isSeparator c = false) :
    words w = if w = [] then [] else [w] := by
  rw [words, List.splitOnP_eq_singleton h]
  cases w <;> simp

theorem words_append_space {w : List Char} (hne : w ≠ []) (h : ∀ c ∈ w, isSeparator c = false)
    (rest : List Char) : words (w ++ ' ' :: rest) = w :: words rest := by
  have hw : w.isEmpty = false := by simpa using hne
  rw [words, List.splitOnP_append_cons_of_forall_mem h ' ' (by decide), List.filter_cons]
  simp [hw, words]

theorem not_isSeparator_of_mem_words {cs w : List Char} (hw : w ∈ words cs) :
    ∀ c ∈ w, isSeparator c = false :=
  Text.not_of_mem_splitOnP (List.mem_filter.1 hw).1

theorem parse_eq_ok {cs : List Char} {m : Message} (h : parse cs = .ok m) :
    ∃ head args, words cs = head :: args ∧ head.tail ≠ [] ∧
      m = ⟨m.kind, .ofList head.tail :: args.map fun arg => .ofList (unescape arg)⟩ := by
  unfold parse at h
  split at h
  · contradiction
  · rename_i head args hwords
    split at h
    · contradiction
    · split at h
      · contradiction
      · rename_i hne
        obtain rfl := Except.ok.inj h
        exact ⟨head, args, hwords, by simpa using hne, rfl⟩

/-! ## Line ends -/

/-- The characters that do not count at the end of a line. -/
def isLineEnd (c : Char) : Bool := c == '\n' || c == '\r'

theorem not_isLineEnd_of_mem_escapeChar {c d : Char} (h : d ∈ escapeChar c) :
    isLineEnd d = false := by
  unfold escapeChar at h
  repeat' split at h
  all_goals simp only [List.mem_cons, List.not_mem_nil, or_false] at h
  all_goals first
    | (rcases h with rfl | rfl <;> decide)
    | (subst h; simp_all [isLineEnd])

theorem not_isLineEnd_of_mem_escape {cs : List Char} {d : Char} (h : d ∈ escape cs) :
    isLineEnd d = false := by
  cases cs with
  | nil =>
    simp only [escape, List.mem_cons, List.not_mem_nil, or_false] at h
    rcases h with rfl | rfl <;> decide
  | cons c rest =>
    obtain ⟨e, _, he⟩ := List.mem_flatMap.1 h
    exact not_isLineEnd_of_mem_escapeChar he

/-! ## Lines that are written -/

/-- The arguments as they stand in a line. -/
def argsText (args : List String) : List Char := args.flatMap fun arg => ' ' :: escape arg.toList

theorem write_eq {m : Message} {name : String} {args : List String} (h : m.words = name :: args) :
    write m = .ok (m.kind.typeChar :: name.toList ++ argsText args) := by
  simp [write, h, argsText]

theorem words_write {w : List Char} (hne : w ≠ []) (h : ∀ c ∈ w, isSeparator c = false)
    (args : List String) :
    words (w ++ argsText args) = w :: args.map fun arg => escape arg.toList := by
  induction args generalizing w with
  | nil => simp [argsText, words_of_forall h, hne]
  | cons arg rest ih =>
    have hcons : w ++ argsText (arg :: rest) =
        w ++ ' ' :: (escape arg.toList ++ argsText rest) := by
      simp [argsText]
    rw [hcons, words_append_space hne h, ih (escape_ne_nil _) fun c hc =>
      not_isSeparator_of_mem_escape hc]
    rfl

theorem typeChar_not_isSeparator (kind : MessageKind) : isSeparator kind.typeChar = false := by
  cases kind <;> decide

theorem typeChar_not_isLineEnd (kind : MessageKind) : isLineEnd kind.typeChar = false := by
  cases kind <;> decide

theorem parse_write {kind : MessageKind} {name : String} (hne : name ≠ "")
    (hname : ∀ c ∈ name.toList, isSeparator c = false) (args : List String) :
    parse (kind.typeChar :: name.toList ++ argsText args) = .ok ⟨kind, name :: args⟩ := by
  have hhead : ∀ c ∈ kind.typeChar :: name.toList, isSeparator c = false := by
    intro c hc
    rcases List.mem_cons.1 hc with rfl | hc
    · exact typeChar_not_isSeparator kind
    · exact hname c hc
  have hkind : MessageKind.ofTypeChar? kind.typeChar = some kind :=
    MessageKind.ofTypeChar?_eq_some_iff.2 rfl
  have hargs : (args.map fun arg => escape arg.toList).map (fun arg => .ofList (unescape arg)) =
      args := by
    induction args with
    | nil => rfl
    | cons arg rest ih => simp [unescape_escape, ih]
  unfold parse
  rw [words_write (List.cons_ne_nil _ _) hhead]
  simp [hkind, hne, hargs]

/-- The last character of a line that is written is the last one of its last argument, or of the
name. -/
theorem getLast_write (kind : MessageKind) {name : String} {args : List String}
    (hname : ∀ c ∈ name.toList, c ≠ '\n') (hlast : args = [] → name.toList.getLast? ≠ some '\r') :
    ∃ front c, kind.typeChar :: name.toList ++ argsText args = front ++ [c] ∧
      isLineEnd c = false := by
  rcases List.eq_nil_or_concat args with rfl | ⟨first, arg, rfl⟩
  · rcases List.eq_nil_or_concat name.toList with hnil | ⟨front, c, hc⟩
    · exact ⟨[], kind.typeChar, by simp [hnil, argsText], typeChar_not_isLineEnd kind⟩
    · refine ⟨kind.typeChar :: front, c, by simp [hc, argsText], ?_⟩
      have h1 : c ≠ '\n' := hname c (by simp [hc])
      have h2 : c ≠ '\r' := by simpa [hc] using hlast rfl
      simp [isLineEnd, h1, h2]
  · obtain ⟨front, c, hc⟩ := (List.eq_nil_or_concat (escape arg.toList)).resolve_left
      (escape_ne_nil _)
    refine ⟨kind.typeChar :: name.toList ++ argsText first ++ ' ' :: front, c, ?_, ?_⟩
    · simp [argsText, hc]
    · have hmem : c ∈ escape arg.toList := by simp [hc]
      exact not_isLineEnd_of_mem_escape hmem

theorem not_lineFeed_mem_write (kind : MessageKind) {name : String}
    (hname : ∀ c ∈ name.toList, c ≠ '\n') (args : List String) :
    '\n' ∉ kind.typeChar :: name.toList ++ argsText args := by
  intro h
  rcases List.mem_append.1 h with h | h
  · rcases List.mem_cons.1 h with h | h
    · exact absurd (h ▸ typeChar_not_isLineEnd kind) (by decide)
    · exact hname _ h rfl
  · obtain ⟨arg, -, harg⟩ := List.mem_flatMap.1 h
    rcases List.mem_cons.1 harg with h | h
    · contradiction
    · exact absurd (not_isLineEnd_of_mem_escape h) (by decide)

end Line

theorem Message.encode_eq {m : Message} {line : List Char} (h : Line.write m = .ok line) :
    m.encode = .ok (Utf8.encode line ++ [lineFeed]) := by
  rw [Message.encode, h]
  exact congrArg Except.ok (Utf8.encode_append line ['\n'])

namespace LineReader

/-! ## Messages that are read back -/

theorem lineText_encode {cs : List Char} {c : Char} (h : Line.isLineEnd c = false) :
    lineText (Utf8.encode (cs ++ [c])) = cs ++ [c] := by
  rw [lineText, Utf8.decodeLossy_encode]
  exact Text.trimEndWhile_concat_of_neg h cs

theorem lineMessage?_write {m : Message} (h : m.Legible) :
    ∃ line, Line.write m = .ok line ∧ lineFeed ∉ Utf8.encode line ∧
      lineMessage? (Utf8.encode line) = some m := by
  obtain ⟨kind, words⟩ := m
  cases words with
  | nil => exact h.elim
  | cons name args =>
    obtain ⟨hne, hname, hlast⟩ := h
    have hfeed : ∀ c ∈ name.toList, c ≠ '\n' := fun c hc => (hname c hc).2.2
    have hsep : ∀ c ∈ name.toList, Line.isSeparator c = false := fun c hc =>
      Line.isSeparator_eq_false.2 ⟨(hname c hc).1, (hname c hc).2.1⟩
    refine ⟨_, Line.write_eq rfl, ?_, ?_⟩
    · intro hmem
      exact Line.not_lineFeed_mem_write kind hfeed args (Utf8.lineFeed_mem_encode hmem)
    · obtain ⟨front, c, hline, hc⟩ := Line.getLast_write kind hfeed hlast
      rw [lineMessage?_eq_parse, hline, lineText_encode hc, ← hline, Line.parse_write hne hsep]
      rfl

/-- Messages that are written one after the other are the messages of the bytes. -/
theorem messagesWithin_encodeAll {limit : Nat} {messages : List Message}
    (h : ∀ m ∈ messages, m.Legible ∧ m.Fits limit) (buffer : List UInt8) :
    ∃ bytes, messages.foldlM (fun buffer m => m.encode.map (buffer ++ ·)) buffer =
        .ok (buffer ++ bytes) ∧
      messagesWithin limit bytes = messages ∧ ¬ Overlong limit bytes ∧ tail bytes = [] := by
  induction messages generalizing buffer with
  | nil =>
    refine ⟨[], by simp [pure, Except.pure], messagesWithin_of_not_mem (by simp), ?_,
      tail_of_not_mem (by simp)⟩
    rw [overlong_of_not_mem limit (by simp)]
    simp
  | cons m rest ih =>
    obtain ⟨hlegible, line, hline, hlen⟩ := h m List.mem_cons_self
    obtain ⟨line', hline', hfeed, hmessage⟩ := lineMessage?_write hlegible
    obtain rfl : line = line' := Except.ok.inj (hline.symm.trans hline')
    obtain ⟨bytes, hbytes, hmessages, hshort, htail⟩ :=
      ih (fun m hm => h m (List.mem_cons_of_mem _ hm)) (buffer ++ (Utf8.encode line ++ [lineFeed]))
    refine ⟨Utf8.encode line ++ lineFeed :: bytes, ?_, ?_, ?_, ?_⟩
    · rw [List.foldlM_cons, Message.encode_eq hline]
      simpa [Except.map, bind, Except.bind] using hbytes
    · rw [messagesWithin_line_append limit hfeed, if_neg (Nat.not_lt.2 hlen), hmessage, hmessages]
      rfl
    · rw [overlong_line_append limit hfeed]
      rintro (hlong | hlong)
      · exact Nat.not_lt.2 hlen hlong
      · exact hshort hlong
    · rw [tail_line_append hfeed, htail]

theorem messages_drain (limit : Nat) (bytes : List UInt8) :
    (drain (new limit) bytes).messages = messagesWithin limit bytes :=
  (@drain_isReading (new limit) bytes (searched_zero bytes)).messages

theorem drain_of_not_overlong {limit : Nat} {bytes : List UInt8} (h : ¬ Overlong limit bytes) :
    drain (new limit) bytes =
      ⟨messagesWithin limit bytes, none, ⟨limit, (tail bytes).length⟩, tail bytes⟩ := by
  have hread : (drain (new limit) bytes).Of limit bytes :=
    @drain_isReading (new limit) bytes (searched_zero bytes)
  obtain ⟨hleft, hreader⟩ := hread.left h
  have hfailure := hread.failure
  rw [if_neg h] at hfailure
  rw [← hread.messages, ← hfailure, ← hreader, ← hleft]

/-! ## Messages that are not read back -/

theorem not_mem_of_mem_lines {bytes line : List UInt8} (h : line ∈ lines bytes) :
    lineFeed ∉ line := by
  induction bytes using line_induction with
  | hrest bytes hmem => simp [lines_of_not_mem hmem] at h
  | hline first rest hfirst ih =>
    rw [lines_line_append hfirst] at h
    rcases List.mem_cons.1 h with rfl | h
    · exact hfirst
    · exact ih h

theorem eq_ok_of_toOption {ε α : Type} {x : Except ε α} {a : α} (h : x.toOption = some a) :
    x = .ok a := by
  cases x with
  | error e => contradiction
  | ok b => exact congrArg Except.ok (Option.some.inj h)

/-- What is read has a name that can stand in a line, up to a carriage return at its end. -/
theorem name_of_mem_messagesWithin {limit : Nat} {bytes : List UInt8} {m : Message}
    (h : m ∈ messagesWithin limit bytes) :
    ∃ name args, m.words = name :: args ∧ name ≠ "" ∧
      ∀ c ∈ name.toList, c ≠ ' ' ∧ c ≠ '\t' ∧ c ≠ '\n' := by
  obtain ⟨line, hline, hparse⟩ := List.mem_filterMap.1 h
  have hfeed : lineFeed ∉ line := not_mem_of_mem_lines ((List.takeWhile_sublist _).subset hline)
  have htext : '\n' ∉ lineText line := fun hmem => hfeed
    (Utf8.lineFeed_mem_of_mem_decodeLossy ((Text.trimEndWhile_sublist _ _).subset hmem))
  obtain ⟨head, args, hwords, hhead, hm⟩ := Line.parse_eq_ok (eq_ok_of_toOption hparse)
  refine ⟨_, _, congrArg Message.words hm, ?_, ?_⟩
  · simpa using hhead
  · intro c hc
    have hmem : c ∈ head := List.mem_of_mem_tail (by simpa using hc)
    have hword : head ∈ Line.words (lineText line) := by simp [hwords]
    have hsep := Line.isSeparator_eq_false.1 (Line.not_isSeparator_of_mem_words hword c hmem)
    exact ⟨hsep.1, hsep.2, fun heq => htext (heq ▸ Line.mem_of_mem_words hword hmem)⟩

/-- A carriage return at the end of a name without arguments is taken for a part of the line's
end. -/
theorem not_read_of_return {m : Message} {name : String} {front : List Char}
    (hwords : m.words = [name]) (hend : name.toList = front ++ ['\r'])
    (hname : ∀ c ∈ name.toList, c ≠ ' ' ∧ c ≠ '\t' ∧ c ≠ '\n') (limit : Nat) :
    m ∉ messagesWithin limit (Utf8.encode (m.kind.typeChar :: name.toList) ++ [lineFeed]) := by
  intro hmem
  have hfeed : lineFeed ∉ Utf8.encode (m.kind.typeChar :: name.toList) := by
    intro hbyte
    have hchar := Line.not_lineFeed_mem_write m.kind (fun c hc => (hname c hc).2.2) []
    exact hchar (by simpa [Line.argsText] using Utf8.lineFeed_mem_encode hbyte)
  rw [messagesWithin_line_append limit hfeed, messagesWithin_of_not_mem (by simp)] at hmem
  have hread : lineMessage? (Utf8.encode (m.kind.typeChar :: name.toList)) = some m := by
    split at hmem
    · contradiction
    · simpa using hmem
  let text := Text.trimEndWhile Line.isLineEnd (m.kind.typeChar :: front)
  have htext : lineText (Utf8.encode (m.kind.typeChar :: name.toList)) = text := by
    rw [lineText, Utf8.decodeLossy_encode, hend]
    exact Text.trimEndWhile_concat_of_pos (p := Line.isLineEnd) (by decide) (_ :: front)
  rw [lineMessage?_eq_parse, htext] at hread
  obtain ⟨head, args, hhead, -, hm⟩ := Line.parse_eq_ok (eq_ok_of_toOption hread)
  have hsub : text.Sublist (m.kind.typeChar :: front) := Text.trimEndWhile_sublist _ _
  have hsep : ∀ c ∈ text, Line.isSeparator c = false := by
    intro c hc
    rcases List.mem_cons.1 (hsub.subset hc) with rfl | hc
    · exact Line.typeChar_not_isSeparator m.kind
    · have hc' := hname c (by simp [hend, hc])
      exact Line.isSeparator_eq_false.2 ⟨hc'.1, hc'.2.1⟩
  rw [Line.words_of_forall hsep] at hhead
  split at hhead
  · contradiction
  · obtain ⟨rfl, -⟩ := List.cons.inj hhead
    -- the name that is read is shorter than the one that was written
    have hsame := congrArg Message.words hm
    rw [hwords] at hsame
    have hshort : name.toList = text.tail := by
      rw [(List.cons.inj hsame).1, String.toList_ofList]
    have hlen := hsub.length_le
    have hlen' := congrArg List.length hshort
    rw [hend, List.length_append, List.length_tail] at hlen'
    simp only [List.length_cons, List.length_nil] at hlen hlen'
    omega

/-- Messages with legible names and any arguments, the lines of which are not too long, are read
back from their lines as they were, in order, and nothing is left over. A message whose name is not
legible can be written too, but is never among the messages that are read from its line. -/
theorem legible_read_back :
    (∀ (limit : Nat) (messages : List Message), (∀ m ∈ messages, m.Legible ∧ m.Fits limit) →
      ∃ bytes, Message.encodeAll messages = .ok bytes ∧
        drain (new limit) bytes = ⟨messages, none, new limit, []⟩) ∧
    ∀ m : Message, m.words ≠ [] → ¬ m.Legible →
      ∃ bytes, m.encode = .ok bytes ∧ ∀ limit, m ∉ (drain (new limit) bytes).messages := by
  constructor
  · intro limit messages h
    obtain ⟨bytes, hbytes, hmessages, hshort, htail⟩ := messagesWithin_encodeAll h []
    refine ⟨bytes, hbytes, ?_⟩
    rw [drain_of_not_overlong hshort, hmessages, htail]
    rfl
  · intro m hne hnot
    obtain ⟨name, args, hwords⟩ := List.exists_cons_of_ne_nil hne
    refine ⟨_, Message.encode_eq (Line.write_eq hwords), fun limit hmem => ?_⟩
    rw [messages_drain] at hmem
    obtain ⟨name', args', hwords', hname, hchars⟩ := name_of_mem_messagesWithin hmem
    obtain ⟨rfl, rfl⟩ := List.cons.inj (hwords'.symm.trans hwords)
    have hreturn : args' = [] ∧ name'.toList.getLast? = some '\r' := by
      by_contra hother
      apply hnot
      unfold Message.Legible
      rw [hwords]
      exact ⟨hname, hchars, fun hargs hlast => hother ⟨hargs, hlast⟩⟩
    obtain ⟨rfl, hlast⟩ := hreturn
    obtain ⟨front, hend⟩ := List.getLast?_eq_some_iff.1 hlast
    exact not_read_of_return hwords hend hchars limit (by simpa [Line.argsText] using hmem)

/-- A message with arguments that have to be escaped, one whose name ends in a carriage return but
has an argument after it, and one whose name ends in a carriage return. -/
theorem legible_read_back_of_returns :
    let awkward : Message := ⟨.inform, ["log", "", " ", "a\\@\x00\n", "\r\x1b\t", "é\u2028"]⟩
    let returning : Message := ⟨.reply, ["a\r", "ok"]⟩
    let lost : Message := ⟨.request, ["a\r"]⟩
    (∃ bytes, Message.encodeAll [awkward, returning] = .ok bytes ∧
        drain (new 40) bytes = ⟨[awkward, returning], none, new 40, []⟩) ∧
      ∃ bytes, lost.encode = .ok bytes ∧ ∀ limit, lost ∉ (drain (new limit) bytes).messages := by
  refine ⟨legible_read_back.1 40 _ ?_, legible_read_back.2 _ (by decide) (by decide)⟩
  intro m hm
  rcases List.mem_cons.1 hm with rfl | hm
  · exact ⟨by decide, _, rfl, by decide⟩
  · obtain rfl := List.mem_singleton.1 hm
    exact ⟨by decide, _, rfl, by decide⟩

end LineReader

end ArrayWatch
