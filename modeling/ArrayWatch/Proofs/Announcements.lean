import ArrayWatch.Inform.Announcement
import ArrayWatch.Proofs.NameGrammar

/-!
# Announcements of arrays

The list of an announcement is cut at its commas, and empty tokens are passed over. The first token
is the control port. If the second one spells a port, it is the monitor port and the groups come
after it; otherwise the groups come right after the control port, and the next argument begins with
the monitor port. A token is a port or a group by its spelling alone, so that a group that spells a
port is taken for the monitor port.

* `Announcement.SpellsPort`: the texts of a port.
* `Announcement.LaidOut`: the two layouts, as a relation.
* `Announcement.ofInform_eq_ok_iff`: an announcement is read by them, and by nothing else.
* `Announcement.decodes_exactly`: what is read, and what is read from it.
-/

namespace ArrayWatch

/-! ## Ports -/

/-- A number is read from its digits, with a plus sign before them or without. -/
theorem Decimal.read?_eq_some_iff {limit n : Nat} {cs : List Char} :
    read? limit cs = some n ↔
      ∃ digits, (cs = digits ∨ cs = '+' :: digits) ∧ digits? limit digits = some n := by
  constructor
  · intro h
    unfold read? at h
    split at h
    · rename_i digits
      exact ⟨digits, .inr rfl, h⟩
    · exact ⟨cs, .inl rfl, h⟩
  · rintro ⟨digits, rfl | rfl, hread⟩
    · obtain ⟨-, hdigits, -⟩ := digits?_eq_some_iff.1 hread
      unfold read?
      split
      · -- a digit is no plus sign
        exact absurd (hdigits '+' List.mem_cons_self) (by decide)
      · exact hread
    · exact hread

namespace Announcement

/-- A text of a port: digits with a value of 16 bits, with a plus sign before them or without. -/
def SpellsPort (token : List Char) (port : UInt16) : Prop :=
  ∃ digits, (token = digits ∨ token = '+' :: digits) ∧ digits ≠ [] ∧
    (∀ c ∈ digits, c.isDigit = true) ∧ Nat.ofDigitChars 10 digits 0 = port.toNat

theorem port?_eq_some_iff {token : List Char} {port : UInt16} :
    port? token = some port ↔ SpellsPort token port := by
  have hword : ∀ n, n ≤ Decimal.word16 → (UInt16.ofNat n = port ↔ n = port.toNat) := by
    intro n hn
    have hmod : (UInt16.ofNat n).toNat = n := UInt16.toNat_ofNat_of_lt' (Nat.lt_succ_of_le hn)
    rw [← UInt16.toNat_inj, hmod]
  constructor
  · intro h
    obtain ⟨n, hread, hport⟩ := Option.map_eq_some_iff.1 h
    obtain ⟨digits, htoken, hdigits⟩ := Decimal.read?_eq_some_iff.1 hread
    obtain ⟨hne, hall, hvalue, hlimit⟩ := Decimal.digits?_eq_some_iff.1 hdigits
    exact ⟨digits, htoken, hne, hall, hvalue.trans ((hword n hlimit).1 hport)⟩
  · rintro ⟨digits, htoken, hne, hall, hvalue⟩
    have hlimit : port.toNat ≤ Decimal.word16 := Nat.le_of_lt_succ port.toNat_lt
    have hdigits : Decimal.digits? Decimal.word16 digits = some port.toNat :=
      Decimal.digits?_eq_some_iff.2 ⟨hne, hall, hvalue, hlimit⟩
    have hread := Decimal.read?_eq_some_iff.2 ⟨digits, htoken, hdigits⟩
    exact Option.map_eq_some_iff.2 ⟨_, hread, (hword _ hlimit).2 rfl⟩

theorem port?_eq_none_iff {token : List Char} :
    port? token = none ↔ ∀ port, ¬ SpellsPort token port := by
  simp only [Option.eq_none_iff_forall_ne_some, ne_eq, port?_eq_some_iff]

theorem SpellsPort.eq {token : List Char} {port other : UInt16} (h : SpellsPort token port)
    (h' : SpellsPort token other) : port = other :=
  Option.some.inj ((port?_eq_some_iff.2 h).symm.trans (port?_eq_some_iff.2 h'))

/-- A port is spelled as the core library writes it. -/
theorem spellsPort_toString (port : UInt16) : SpellsPort (toString port).toList port := by
  have hlimit : port.toNat ≤ Decimal.word16 := Nat.le_of_lt_succ port.toNat_lt
  have hread := Decimal.digits?_eq_some_iff.1 (Decimal.digits?_write hlimit)
  obtain ⟨hne, hall, hvalue, -⟩ := hread
  refine ⟨_, .inl ?_, hne, hall, hvalue⟩
  exact Decimal.toList_toString port.toNat

/-! ## Layouts -/

/-- Where the two ports and the groups are: all in the list, or the monitor port at the start of the
next argument, in which case no port comes after the first one in the list. -/
inductive LaidOut : List (List Char) → Option (List Char) → UInt16 → UInt16 →
    List (List Char) → Prop
  | inList {first second : List Char} {groups : List (List Char)} {next : Option (List Char)}
      {control monitor : UInt16} (hcontrol : SpellsPort first control)
      (hmonitor : SpellsPort second monitor) :
      LaidOut (first :: second :: groups) next control monitor groups
  | inNext {first next : List Char} {groups : List (List Char)} {control monitor : UInt16}
      (hcontrol : SpellsPort first control)
      (hgroup : ∀ group ∈ groups.head?, ∀ port, ¬ SpellsPort group port)
      (hmonitor : SpellsPort next monitor) :
      LaidOut (first :: groups) (some next) control monitor groups

/-- The token at the start of an argument. -/
def firstToken? (text : String) : Option (List Char) := (text.toList.splitOn ',').head?

theorem monitorPort?_eq_some_iff {first : List Char} {rest groups : List (List Char)}
    {next : Option String} {control monitor : UInt16} (hcontrol : SpellsPort first control) :
    monitorPort? rest next = some (monitor, groups) ↔
      LaidOut (first :: rest) (next.bind firstToken?) control monitor groups := by
  unfold monitorPort?
  split
  · -- the second token spells a port
    rename_i port hport
    obtain ⟨second, hsecond, hspells⟩ := Option.bind_eq_some_iff.1 hport
    rw [port?_eq_some_iff] at hspells
    obtain ⟨others, rfl⟩ := List.head?_eq_some_iff.1 hsecond
    constructor
    · intro h
      obtain ⟨rfl, rfl⟩ := Prod.mk.inj (Option.some.inj h)
      exact .inList hcontrol hspells
    · intro h
      generalize next.bind firstToken? = token at h
      cases h with
      | inList _ hmonitor =>
        rw [hspells.eq hmonitor]
        rfl
      | inNext _ hgroup _ => exact absurd hspells (hgroup second rfl port)
  · rename_i hnone
    have hgroup : ∀ group ∈ rest.head?, ∀ port, ¬ SpellsPort group port := by
      intro group hmem
      exact port?_eq_none_iff.1 (Option.bind_eq_none_iff.1 hnone group hmem)
    show ((next.bind firstToken?).bind port?).map (·, rest) = _ ↔ _
    generalize next.bind firstToken? = token
    constructor
    · intro h
      obtain ⟨port, hport, hpair⟩ := Option.map_eq_some_iff.1 h
      obtain ⟨rfl, rfl⟩ := Prod.mk.inj hpair
      obtain ⟨text, rfl, hspells⟩ := Option.bind_eq_some_iff.1 hport
      exact .inNext hcontrol hgroup (port?_eq_some_iff.1 hspells)
    · intro h
      cases h with
      | inList _ hmonitor => exact absurd hmonitor (hgroup _ rfl _)
      | inNext _ _ hmonitor =>
        rw [Option.bind_some, port?_eq_some_iff.2 hmonitor]
        rfl

theorem LaidOut.exists_cons {list groups : List (List Char)} {next : Option (List Char)}
    {control monitor : UInt16} (h : LaidOut list next control monitor groups) :
    ∃ first rest, list = first :: rest ∧ SpellsPort first control := by
  cases h with
  | inList hcontrol _ => exact ⟨_, _, rfl, hcontrol⟩
  | inNext hcontrol _ _ => exact ⟨_, _, rfl, hcontrol⟩

/-- What can be laid out: a port comes first, and another one second or in the next argument. -/
theorem exists_laidOut_iff {list : List (List Char)} {next : Option (List Char)} :
    (∃ control monitor groups, LaidOut list next control monitor groups) ↔
      (∃ first ∈ list[0]?, ∃ port, SpellsPort first port) ∧
        ((∃ second ∈ list[1]?, ∃ port, SpellsPort second port) ∨
          ∃ token ∈ next, ∃ port, SpellsPort token port) := by
  constructor
  · rintro ⟨control, monitor, groups, h⟩
    cases h with
    | inList hcontrol hmonitor =>
      exact ⟨⟨_, rfl, control, hcontrol⟩, .inl ⟨_, rfl, monitor, hmonitor⟩⟩
    | inNext hcontrol _ hmonitor =>
      exact ⟨⟨_, rfl, control, hcontrol⟩, .inr ⟨_, rfl, monitor, hmonitor⟩⟩
  · rintro ⟨⟨first, hfirst, control, hcontrol⟩, hmonitor⟩
    obtain ⟨rest, rfl⟩ : ∃ rest, list = first :: rest := by
      rw [← List.head?_eq_getElem?] at hfirst
      exact List.head?_eq_some_iff.1 hfirst
    by_cases hsecond : ∃ second ∈ rest.head?, ∃ port, SpellsPort second port
    · obtain ⟨second, hmem, monitor, hport⟩ := hsecond
      obtain ⟨groups, rfl⟩ := List.head?_eq_some_iff.1 hmem
      exact ⟨control, monitor, groups, .inList hcontrol hport⟩
    · have hgroup : ∀ group ∈ rest.head?, ∀ port, ¬ SpellsPort group port :=
        fun group hmem port hport => hsecond ⟨group, hmem, port, hport⟩
      rcases hmonitor with ⟨second, hmem, hport⟩ | ⟨token, rfl, monitor, hport⟩
      · rw [List.getElem?_cons_succ, ← List.head?_eq_getElem?] at hmem
        exact absurd ⟨second, hmem, hport⟩ hsecond
      · exact ⟨control, monitor, rest, .inNext hcontrol hgroup hport⟩

/-! ## Lists with empty tokens -/

/-- The parts of a list between commas are these tokens, with any number of empty ones anywhere. -/
structure Lists (parts tokens : List String) : Prop where
  apart : ∀ part ∈ parts, ',' ∉ part.toList
  nonempty : parts.filter (· ≠ "") = tokens

theorem Lists.tokens_eq {parts list : List String} (h : Lists parts list) :
    tokens (",".intercalate parts) = list.map String.toList := by
  rw [← h.nonempty]
  by_cases hne : parts = []
  · subst hne
    rfl
  · have hsplit := Text.splitOn_intercalate hne h.apart
    unfold tokens
    rw [String.toList_intercalate]
    show (([','].intercalate (parts.map String.toList)).splitOn ',').filter _ = _
    rw [hsplit, List.filter_map]
    congr 1
    refine List.filter_congr fun part _ => ?_
    rw [Bool.eq_iff_iff]
    simp

/-- Tokens are a list of themselves. -/
theorem lists_self {list : List String} (h : ∀ token ∈ list, token ≠ "" ∧ ',' ∉ token.toList) :
    Lists list list :=
  ⟨fun token htoken => (h token htoken).2,
    List.filter_eq_self.2 fun token htoken => by simpa using (h token htoken).1⟩

theorem firstToken?_of_spellsPort {text : String} {port : UInt16}
    (h : SpellsPort text.toList port) : firstToken? text = some text.toList := by
  obtain ⟨digits, htext, -, hall, -⟩ := h
  have hcomma : ',' ∉ text.toList := by
    have hdigits : ',' ∉ digits := fun hmem => absurd (hall _ hmem) (by decide)
    rcases htext with htext | htext <;> simp [htext, hdigits]
  have hsplit : text.toList.splitOn ',' = [text.toList] := List.splitOn_eq_singleton hcomma
  rw [firstToken?, hsplit]
  rfl

/-! ## Announcements -/

theorem ofInform_eq_ok_iff {m : Message} {spec : Announcement} :
    ofInform m = .ok spec ↔
      (m.arg? 1 = some spec.name ∧ spec.name ≠ "") ∧ ∃ list groups, m.arg? 2 = some list ∧
        LaidOut (tokens list) ((m.arg? 3).bind firstToken?) spec.controlPort spec.monitorPort
          groups ∧ spec.antennas = groups.length / 2 := by
  unfold ofInform
  dsimp only
  split
  · rename_i hname
    simp [hname]
  · rename_i hname
    constructor
    · intro h
      contradiction
    · rintro ⟨⟨hspec, hne⟩, -⟩
      exact absurd (Option.some.inj (hspec.symm.trans hname)) hne
  · rename_i hlist
    simp [hlist]
  · rename_i name list hne hname hlist
    constructor
    · intro h
      split at h
      · contradiction
      · rename_i first rest hfirst
        split at h
        · contradiction
        · rename_i control hcontrol
          split at h
          · contradiction
          · rename_i monitor groups hmonitor
            obtain rfl := Except.ok.inj h
            refine ⟨⟨hname, hne⟩, list, groups, hlist, ?_, rfl⟩
            rw [hfirst]
            exact (monitorPort?_eq_some_iff (port?_eq_some_iff.1 hcontrol)).1 hmonitor
    · rintro ⟨⟨hspec, -⟩, other, groups, hother, hlaid, hantennas⟩
      obtain rfl := Option.some.inj (hlist.symm.trans hother)
      obtain rfl := Option.some.inj (hname.symm.trans hspec)
      obtain ⟨first, rest, hfirst, hcontrol⟩ := hlaid.exists_cons
      rw [hfirst] at hlaid
      have hmonitor := (monitorPort?_eq_some_iff hcontrol).2 hlaid
      simp only [hfirst, port?_eq_some_iff.2 hcontrol, hmonitor, ← hantennas]

/-- What a message has to say to announce an array: a name, a port at the start of the list, and
another port that comes second in the list or first in the next argument. -/
structure Announces (m : Message) : Prop where
  name : ∃ name ∈ m.arg? 1, name ≠ ""
  control : ∃ list ∈ m.arg? 2, ∃ first ∈ (tokens list)[0]?, ∃ port, SpellsPort first port
  monitor : (∃ list ∈ m.arg? 2, ∃ second ∈ (tokens list)[1]?, ∃ port, SpellsPort second port) ∨
    ∃ next ∈ m.arg? 3, ∃ token ∈ firstToken? next, ∃ port, SpellsPort token port

theorem exists_ofInform_iff {m : Message} : (∃ spec, ofInform m = .ok spec) ↔ Announces m := by
  constructor
  · rintro ⟨spec, h⟩
    obtain ⟨hname, list, groups, hlist, hlaid, -⟩ := ofInform_eq_ok_iff.1 h
    obtain ⟨hcontrol, hmonitor⟩ := exists_laidOut_iff.1 ⟨_, _, _, hlaid⟩
    refine ⟨⟨spec.name, hname⟩, ⟨list, hlist, hcontrol⟩, ?_⟩
    rcases hmonitor with hsecond | ⟨token, htoken, hport⟩
    · exact .inl ⟨list, hlist, hsecond⟩
    · obtain ⟨next, hnext, hfirst⟩ := Option.bind_eq_some_iff.1 htoken
      exact .inr ⟨next, hnext, token, hfirst, hport⟩
  · rintro ⟨⟨name, hname⟩, ⟨list, hlist, hcontrol⟩, hmonitor⟩
    have hports : (∃ second ∈ (tokens list)[1]?, ∃ port, SpellsPort second port) ∨
        ∃ token ∈ (m.arg? 3).bind firstToken?, ∃ port, SpellsPort token port := by
      rcases hmonitor with ⟨other, hother, hsecond⟩ | ⟨next, hnext, token, htoken, hport⟩
      · obtain rfl := Option.some.inj (hlist.symm.trans hother)
        exact .inl hsecond
      · exact .inr ⟨token, Option.bind_eq_some_iff.2 ⟨next, hnext, htoken⟩, hport⟩
    obtain ⟨control, monitor, groups, hlaid⟩ := exists_laidOut_iff.2 ⟨hcontrol, hports⟩
    exact ⟨⟨name, control, monitor, groups.length / 2⟩,
      ofInform_eq_ok_iff.2 ⟨hname, list, groups, hlist, hlaid, rfl⟩⟩

section Layouts

variable {kind : MessageKind} {command name first : String} {parts groups more : List String}
  {control monitor : UInt16}

theorem ofInform_inList {second : String} (hname : name ≠ "")
    (hlist : Lists parts (first :: second :: groups)) (hcontrol : SpellsPort first.toList control)
    (hmonitor : SpellsPort second.toList monitor) :
    ofInform ⟨kind, command :: name :: ",".intercalate parts :: more⟩ =
      .ok ⟨name, control, monitor, groups.length / 2⟩ := by
  refine ofInform_eq_ok_iff.2 ⟨⟨rfl, hname⟩, _, groups.map String.toList, rfl, ?_, ?_⟩
  · rw [hlist.tokens_eq]
    exact .inList hcontrol hmonitor
  · rw [List.length_map]

theorem ofInform_inNext {next : String} (hname : name ≠ "") (hlist : Lists parts (first :: groups))
    (hcontrol : SpellsPort first.toList control)
    (hgroup : ∀ group ∈ groups.head?, ∀ port, ¬ SpellsPort group.toList port)
    (hmonitor : SpellsPort next.toList monitor) :
    ofInform ⟨kind, command :: name :: ",".intercalate parts :: next :: more⟩ =
      .ok ⟨name, control, monitor, groups.length / 2⟩ := by
  refine ofInform_eq_ok_iff.2 ⟨⟨rfl, hname⟩, _, groups.map String.toList, rfl, ?_, ?_⟩
  · rw [hlist.tokens_eq]
    show LaidOut (first.toList :: groups.map String.toList) (firstToken? next) control monitor _
    rw [firstToken?_of_spellsPort hmonitor]
    refine .inNext hcontrol (fun group hmem => ?_) hmonitor
    rw [List.head?_map] at hmem
    obtain ⟨text, htext, rfl⟩ := Option.map_eq_some_iff.1 hmem
    exact hgroup text htext
  · rw [List.length_map]

end Layouts

/-- Just the messages that say what an announcement has to say are read. From a name and a list of
two ports and the groups, these are read, with one antenna for every two groups; and so they are
where the second port is the next argument, unless the first group spells a port. Empty tokens
anywhere in the list change nothing, and every port may be written in decimal. -/
theorem decodes_exactly :
    (∀ m, (∃ spec, ofInform m = .ok spec) ↔ Announces m) ∧
    (∀ port : UInt16, SpellsPort (toString port).toList port) ∧
    ∀ (kind : MessageKind) (command name first second : String) (parts groups more : List String)
      (control monitor : UInt16), name ≠ "" → SpellsPort first.toList control →
      SpellsPort second.toList monitor →
      (Lists parts (first :: second :: groups) →
        ofInform ⟨kind, command :: name :: ",".intercalate parts :: more⟩ =
          .ok ⟨name, control, monitor, groups.length / 2⟩) ∧
      (Lists parts (first :: groups) →
        (∀ group ∈ groups.head?, ∀ port, ¬ SpellsPort group.toList port) →
        ofInform ⟨kind, command :: name :: ",".intercalate parts :: second :: more⟩ =
          .ok ⟨name, control, monitor, groups.length / 2⟩) := by
  refine ⟨fun m => exists_ofInform_iff, spellsPort_toString, ?_⟩
  intro kind command name first second parts groups more control monitor hname hcontrol hmonitor
  exact ⟨fun hlist => ofInform_inList hname hlist hcontrol hmonitor,
    fun hlist hgroup => ofInform_inNext hname hlist hcontrol hgroup hmonitor⟩

/-- Three groups in both layouts, with empty tokens and with a plus sign. -/
theorem decodes_exactly_threeGroups :
    let groups := ["239.10.0.0", "239.10.0.1", "239.10.0.2"]
    let parts := ["", "7148", "", "+7149"] ++ groups ++ [""]
    Lists parts ("7148" :: "+7149" :: groups) ∧
      ofInform ⟨.inform, ["array-list", "array0", ",".intercalate parts]⟩ =
        .ok ⟨"array0", 7148, 7149, 1⟩ ∧
      Lists ("7148" :: groups) ("7148" :: groups) ∧
      ofInform ⟨.inform, ["array-list", "array0", ",".intercalate ("7148" :: groups), "+7149"]⟩ =
        .ok ⟨"array0", 7148, 7149, 1⟩ := by
  intro groups parts
  have hcontrol : SpellsPort "7148".toList 7148 := port?_eq_some_iff.1 (by decide)
  have hmonitor : SpellsPort "+7149".toList 7149 := port?_eq_some_iff.1 (by decide)
  have hgroup : ∀ group ∈ groups.head?, ∀ port, ¬ SpellsPort group.toList port := by
    rintro group ⟨⟩
    exact port?_eq_none_iff.1 (by decide)
  have hparts : Lists parts ("7148" :: "+7149" :: groups) := ⟨by decide, by decide⟩
  have hplain : Lists ("7148" :: groups) ("7148" :: groups) := lists_self (by decide)
  obtain ⟨-, -, hdecodes⟩ := decodes_exactly
  obtain ⟨hlist, -⟩ := hdecodes .inform "array-list" "array0" "7148" "+7149" parts groups [] 7148
    7149 (by decide) hcontrol hmonitor
  obtain ⟨-, hnext⟩ := hdecodes .inform "array-list" "array0" "7148" "+7149" ("7148" :: groups)
    groups [] 7148 7149 (by decide) hcontrol hmonitor
  have hantennas : groups.length / 2 = 1 := by decide
  rw [hantennas] at hlist hnext
  exact ⟨hparts, hlist hparts, hplain, hnext hplain hgroup⟩

end Announcement

end ArrayWatch
