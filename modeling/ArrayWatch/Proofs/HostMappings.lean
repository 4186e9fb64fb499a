import ArrayWatch.Link.Scripted
import ArrayWatch.Proofs.HostPayloads
import ArrayWatch.Proofs.Utf8Coding

/-!
# Host mappings, record by record

The records of a mapping stand at fixed offsets of the bytes, and the fields of a record at fixed
offsets of the record. When the payload is put together from texts of thirty bytes, every record is
one of these texts, with all of its characters whole, and is read as if it were alone; only where a
failure says at which byte it is does the place of the record come in. Where there is no text left,
the record is truncated.

* `HostMapping.ofRecord_join`: a record in a payload and the same record alone.
* `HostMapping.Written`: a record with everything in its place. `HostMapping.Written.ofText_text`:
  what is read from it.
* `SensorTree.applyMappings_eq`: every host has the serial of the last record for it.
* `ArrayMoment.mapping_record_wise` puts these together for the array of any run.
-/

namespace ArrayWatch

/-- The same failure in a record that starts so many bytes later. -/
def InformError.shift (bytes : Nat) : InformError → InformError
  | mappingTruncated byte => .mappingTruncated (bytes + byte)
  | badHostType byte => .badHostType (bytes + byte)
  | badHostNumber digits byte => .badHostNumber digits (bytes + byte)
  | e => e

namespace HostMapping

/-! ## Fields -/

/-- A slice that lies within a part of the payload is a slice of the part. -/
theorem slice?_append {part : List UInt8} {start length : Nat} (h : start + length ≤ part.length)
    (before after : List UInt8) :
    slice? (before ++ part ++ after) (before.length + start) length = slice? part start length := by
  have hwithin : before.length + start + length ≤ (before ++ part ++ after).length := by
    simp only [List.length_append]
    omega
  have hbytes : ((before ++ part ++ after).drop (before.length + start)).take length =
      (part.drop start).take length := by
    have hstart : start ≤ part.length := by omega
    have hlength : length ≤ (part.drop start).length := by
      rw [List.length_drop]
      omega
    rw [List.append_assoc, ← List.drop_drop, List.drop_left, List.drop_append_of_le_length hstart,
      List.take_append_of_le_length hlength]
  unfold slice?
  rw [if_pos hwithin, if_pos h, hbytes]

theorem slice?_encode (before after : List UInt8) (cs : List Char) :
    slice? (before ++ Utf8.encode cs ++ after) before.length (Utf8.encode cs).length = some cs := by
  have hwhole := slice?_append (Nat.le_of_eq (Nat.zero_add (Utf8.encode cs).length)) before after
  rw [Nat.add_zero] at hwhole
  rw [hwhole]
  unfold slice?
  rw [if_pos (Nat.le_of_eq (Nat.zero_add _)), List.drop_zero, List.take_length]
  exact Utf8.decode?_encode cs

/-- A field is read where its text begins at its offset and has its length. -/
theorem field_text {place : Nat × Nat} {before text : String}
    (hstart : before.utf8ByteSize = place.1) (hlength : text.utf8ByteSize = place.2)
    (after : String) :
    field (Utf8.encode (before ++ text ++ after).toList) 0 place = .ok text.toList := by
  have hslice := slice?_encode (Utf8.encode before.toList) (Utf8.encode after.toList) text.toList
  rw [Utf8.length_encode_toList, Utf8.length_encode_toList, hstart, hlength] at hslice
  unfold field
  rw [String.toList_append, String.toList_append, Utf8.encode_append, Utf8.encode_append,
    Nat.zero_add, hslice]

theorem field_append {part : List UInt8} {place : Nat × Nat}
    (h : place.1 + place.2 ≤ part.length) (before after : List UInt8) :
    field (before ++ part ++ after) before.length place =
      (field part 0 place).mapError (.shift before.length) := by
  unfold field
  rw [slice?_append h before after, Nat.zero_add]
  cases slice? part place.1 place.2 <;> rfl

/-! ## Records -/

theorem ofRecord_append {part : List UInt8} (h : part.length = recordLength)
    (before after : List UInt8) :
    ofRecord (before ++ part ++ after) before.length =
      (ofRecord part 0).mapError (.shift before.length) := by
  have hfield : ∀ place : Nat × Nat, place.1 + place.2 ≤ recordLength →
      field (before ++ part ++ after) before.length place =
        (field part 0 place).mapError (.shift before.length) :=
    fun place hplace => field_append (h ▸ hplace) before after
  unfold ofRecord
  rw [hfield serialField (by decide), hfield teamField (by decide), hfield numberField (by decide)]
  cases field part 0 serialField with
  | error e => rfl
  | ok serial =>
    cases field part 0 teamField with
    | error e => rfl
    | ok letter =>
      simp only [Except.mapError, bind, Except.bind]
      cases letter.head?.filter Char.isAlpha with
      | none => rfl
      | some team =>
        cases field part 0 numberField with
        | error e => rfl
        | ok digits =>
          dsimp only
          split <;> rfl

/-- Behind the end of the payload there is nothing to be read. -/
theorem ofRecord_truncated {payload : List UInt8} {base : Nat} (h : payload.length ≤ base) :
    ofRecord payload base = .error (.mappingTruncated (base + serialField.1)) := by
  have hslice : slice? payload (base + serialField.1) serialField.2 = none := by
    refine if_neg ?_
    simp only [serialField]
    omega
  have hfield : field payload base serialField =
      .error (.mappingTruncated (base + serialField.1)) := by
    unfold field
    rw [hslice]
  unfold ofRecord
  rw [hfield]
  rfl

/-! ## Payloads -/

/-- What is read from a text that is a record of its own. -/
def ofText (text : String) : Except InformError HostMapping :=
  ofRecord (Utf8.encode text.toList) 0

theorem encode_join (strings : List String) :
    Utf8.encode (String.join strings).toList =
      (strings.map fun s => Utf8.encode s.toList).flatten := by
  rw [String.toList_join, Utf8.encode, List.flatMap_assoc]
  rfl

theorem length_encode_join {strings : List String}
    (h : ∀ s ∈ strings, s.utf8ByteSize = recordLength) :
    (Utf8.encode (String.join strings).toList).length = strings.length * recordLength := by
  rw [encode_join]
  induction strings with
  | nil => rfl
  | cons s rest ih =>
    obtain ⟨hs, hrest⟩ := List.forall_mem_cons.1 h
    rw [List.map_cons, List.flatten_cons, List.length_append, ih hrest, Utf8.length_encode_toList,
      hs, List.length_cons, Nat.succ_mul, Nat.add_comm]

/-- A record in a payload and the same record alone: only the bytes of the failures differ. -/
theorem ofRecord_join {before after : List String} {s : String}
    (h : ∀ other ∈ before ++ s :: after, other.utf8ByteSize = recordLength) :
    ofRecord (Utf8.encode (String.join (before ++ s :: after)).toList)
        (before.length * recordLength) =
      (ofText s).mapError (.shift (before.length * recordLength)) := by
  have hs : (Utf8.encode s.toList).length = recordLength :=
    (Utf8.length_encode_toList s).trans (h s (List.mem_append_right _ List.mem_cons_self))
  have hbefore := length_encode_join fun other hother => h other (List.mem_append_left _ hother)
  have hbytes : Utf8.encode (String.join (before ++ s :: after)).toList =
      Utf8.encode (String.join before).toList ++ Utf8.encode s.toList ++
        Utf8.encode (String.join after).toList := by
    simp only [encode_join, List.map_append, List.map_cons, List.flatten_append, List.flatten_cons,
      List.append_assoc]
  rw [hbytes, ← hbefore]
  exact ofRecord_append hs _ _

theorem length_ofPayload (payload : String) (records : Nat) :
    (ofPayload payload records).length = records := by
  simp only [ofPayload, List.length_map, List.length_range]

theorem getElem?_ofPayload (payload : String) {records i : Nat} (h : i < records) :
    (ofPayload payload records)[i]? =
      some (ofRecord (Utf8.encode payload.toList) (i * recordLength)) := by
  unfold ofPayload
  dsimp only
  rw [List.getElem?_map, List.getElem?_range h]
  rfl

/-- Every text of a payload is read as if it were alone. -/
theorem getElem?_ofPayload_of_some {strings : List String}
    (h : ∀ s ∈ strings, s.utf8ByteSize = recordLength) {records i : Nat} (hi : i < records)
    {s : String} (hs : strings[i]? = some s) :
    (ofPayload (String.join strings) records)[i]? =
      some ((ofText s).mapError (.shift (i * recordLength))) := by
  obtain ⟨hlt, rfl⟩ := List.getElem?_eq_some_iff.1 hs
  have hsplit : strings = strings.take i ++ strings[i] :: strings.drop (i + 1) := by
    rw [← List.drop_eq_getElem_cons hlt, List.take_append_drop]
  have hlength : (strings.take i).length = i := List.length_take_of_le (Nat.le_of_lt hlt)
  rw [hsplit] at h
  have hrecord := ofRecord_join h
  rw [hlength, ← hsplit] at hrecord
  rw [getElem?_ofPayload _ hi, hrecord]

/-- Behind the texts of a payload nothing is read. -/
theorem getElem?_ofPayload_of_le {strings : List String}
    (h : ∀ s ∈ strings, s.utf8ByteSize = recordLength) {records i : Nat} (hi : i < records)
    (hend : strings.length ≤ i) :
    (ofPayload (String.join strings) records)[i]? =
      some (.error (.mappingTruncated (i * recordLength + serialField.1))) := by
  have hlength : (Utf8.encode (String.join strings).toList).length ≤ i * recordLength := by
    rw [length_encode_join h]
    exact Nat.mul_le_mul_right _ hend
  rw [getElem?_ofPayload _ hi, ofRecord_truncated hlength]

/-! ## Records with everything in its place -/

/-- The parts of a record, with whole characters in each of them. -/
structure Written where
  before : String
  serial : String
  between : String
  letter : Char
  after : String
  tens : Char
  ones : Char
  last : String
  size_before : before.utf8ByteSize = 8
  size_serial : serial.utf8ByteSize = 6
  size_between : between.utf8ByteSize = 7
  isAlpha_letter : letter.isAlpha = true
  size_after : after.utf8ByteSize = 4
  isDigit_tens : tens.isDigit = true
  isDigit_ones : ones.isDigit = true
  size_last : last.utf8ByteSize = 2

namespace Written

/-- The record. -/
def text (w : Written) : String :=
  w.before ++ w.serial ++ w.between ++ String.singleton w.letter ++ w.after ++
    String.ofList [w.tens, w.ones] ++ w.last

/-- What the record says. -/
def mapping (w : Written) : HostMapping :=
  ⟨⟨w.letter, 10 * (w.tens.toNat - '0'.toNat) + (w.ones.toNat - '0'.toNat)⟩, w.serial⟩

end Written

theorem utf8Size_of_isAlpha {c : Char} (h : c.isAlpha = true) : c.utf8Size = 1 := by
  rw [Char.utf8Size_eq_one_iff]
  rcases Bool.or_eq_true_iff.1 h with hupper | hlower
  · exact UInt32.le_trans (of_decide_eq_true hupper).2 (by decide)
  · exact UInt32.le_trans (of_decide_eq_true (Bool.and_eq_true_iff.1 hlower).2) (by decide)

theorem utf8Size_of_isDigit {c : Char} (h : c.isDigit = true) : c.utf8Size = 1 := by
  rw [Char.utf8Size_eq_one_iff]
  exact UInt32.le_trans (of_decide_eq_true (Bool.and_eq_true_iff.1 h).2) (by decide)

namespace Written

variable (w : Written)

theorem size_letter : (String.singleton w.letter).utf8ByteSize = 1 := by
  rw [String.utf8ByteSize_singleton, utf8Size_of_isAlpha w.isAlpha_letter]

theorem size_number : (String.ofList [w.tens, w.ones]).utf8ByteSize = 2 := by
  rw [String.ofList_cons, String.ofList_cons, String.ofList_nil, String.utf8ByteSize_append,
    String.utf8ByteSize_append, String.utf8ByteSize_singleton, String.utf8ByteSize_singleton,
    utf8Size_of_isDigit w.isDigit_tens, utf8Size_of_isDigit w.isDigit_ones]
  rfl

/-- The record has the right length. -/
theorem size_text : w.text.utf8ByteSize = recordLength := by
  simp only [text, String.utf8ByteSize_append, w.size_before, w.size_serial, w.size_between,
    w.size_letter, w.size_after, w.size_number, w.size_last, recordLength]

theorem serial_text : field (Utf8.encode w.text.toList) 0 serialField = .ok w.serial.toList := by
  have hsplit : w.text = w.before ++ w.serial ++ (w.between ++ String.singleton w.letter ++
      w.after ++ String.ofList [w.tens, w.ones] ++ w.last) := by
    simp only [text, String.append_assoc]
  rw [hsplit]
  exact field_text w.size_before w.size_serial _

theorem letter_text : field (Utf8.encode w.text.toList) 0 teamField = .ok [w.letter] := by
  have hsplit : w.text = w.before ++ w.serial ++ w.between ++ String.singleton w.letter ++
      (w.after ++ String.ofList [w.tens, w.ones] ++ w.last) := by
    simp only [text, String.append_assoc]
  rw [hsplit, ← String.toList_singleton (c := w.letter)]
  refine field_text ?_ w.size_letter _
  simp only [String.utf8ByteSize_append, w.size_before, w.size_serial, w.size_between, teamField]

theorem number_text : field (Utf8.encode w.text.toList) 0 numberField = .ok [w.tens, w.ones] := by
  rw [← String.toList_ofList (l := [w.tens, w.ones])]
  refine field_text ?_ w.size_number _
  simp only [String.utf8ByteSize_append, w.size_before, w.size_serial, w.size_between,
    w.size_letter, w.size_after, numberField]

/-- A record with everything in its place is read as what it says. -/
theorem ofText_text : ofText w.text = .ok w.mapping := by
  have hletter : [w.letter].head?.filter Char.isAlpha = some w.letter := by
    simp [w.isAlpha_letter]
  have hdigits : [w.tens, w.ones].all Char.isDigit = true := by
    simp [w.isDigit_tens, w.isDigit_ones]
  have hnumber : Nat.ofDigitChars 10 [w.tens, w.ones] 0 =
      10 * (w.tens.toNat - '0'.toNat) + (w.ones.toNat - '0'.toNat) := by
    simp only [Nat.ofDigitChars_cons, Nat.ofDigitChars_nil, Nat.mul_zero, Nat.zero_add]
  unfold ofText ofRecord
  rw [w.serial_text, w.letter_text, w.number_text]
  simp only [bind, Except.bind, hletter, hdigits, if_true, String.ofList_toList, hnumber, mapping]

end Written

/-! ## Serials of the hosts -/

/-- The serial that a record brings to a host. -/
def serialFor? (id : HostId) : Except InformError HostMapping → Option String
  | .ok mapping => if id = mapping.host then some mapping.serial else none
  | .error _ => none

/-- Whether a record cannot be read, or is for a host that is not there. -/
def isFaulty (t : SensorTree) : Except InformError HostMapping → Bool
  | .ok mapping => !decide (t.Has mapping.host)
  | .error _ => true

end HostMapping

namespace SensorTree

variable {t : SensorTree}

theorem applyMapping_eq (h : t.Sound) (mapping : Except InformError HostMapping) :
    t.applyMapping mapping =
      (t.overwrite (fun serial host => host.setSerial serial) (HostMapping.serialFor? · mapping),
        (HostMapping.isFaulty t mapping).toNat) := by
  cases mapping with
  | error e => exact congrArg (·, 1) t.overwrite_none.symm
  | ok mapping =>
    have hcases :=
      overwrite_cases (fun serial host => host.setSerial serial) h mapping.host mapping.serial
    have hset : t.setSerial mapping.host mapping.serial = _ := rfl
    dsimp only [applyMapping, HostMapping.isFaulty]
    rcases hcases with ⟨hhas, hresult⟩ | ⟨hhas, hsame, e, hresult⟩
    · rw [hset.trans hresult, decide_eq_true hhas]
      rfl
    · rw [hset.trans hresult, decide_eq_false hhas]
      exact congrArg (·, 1) hsame.symm

/-- Every host has the serial of the last record for it. -/
theorem applyMappings_eq {antennas : Nat} (h : t.Served antennas)
    (mappings : List (Except InformError HostMapping)) :
    t.applyMappings mappings =
      (t.mapHosts fun host => { host with
        serial := (lastWord? (HostMapping.serialFor? host.id) mappings).getD host.serial },
        mappings.countP (HostMapping.isFaulty t)) := by
  have hfaulty : ∀ (t : SensorTree) (word : HostId → Option String),
      HostMapping.isFaulty (t.overwrite (fun serial host => host.setSerial serial) word) =
        HostMapping.isFaulty t := by
    intro t word
    funext mapping
    cases mapping with
    | error e => rfl
    | ok mapping => simp only [HostMapping.isFaulty, has_overwrite]
  have happly : t.applyMappings mappings =
      (t.overwrite (fun serial host => host.setSerial serial) fun id =>
        lastWord? (HostMapping.serialFor? id) mappings, _) :=
    takeAll_eq Host.register_setSerial (fun _ => rfl) (fun _ _ _ => rfl)
      (fun _ mapping h => applyMapping_eq h.sound mapping) hfaulty h mappings
  rw [happly]
  refine congrArg (t.mapHosts ·, _) (funext fun host => ?_)
  dsimp only
  cases lastWord? (HostMapping.serialFor? host.id) mappings <;> rfl

end SensorTree

namespace ArrayMoment

/-- A payload that is put together from texts of thirty bytes gives one result for every record that
is expected: the text at the place of the record is read for itself, up to the bytes in the
failures, and behind the last text all records are truncated. A text with everything in its place is
read as what it says. Whatever happened to an array before: a payload leaves every host with the
serial of the last record that is for it, or with the one that it had, and changes nothing else. The
records that cannot be read, or are for no host of the array, are counted. -/
theorem mapping_record_wise {strings : List String}
    (hstrings : ∀ s ∈ strings, s.utf8ByteSize = 30) (records : Nat) (written : HostMapping.Written)
    {ν : Type} [Network ν] (spec : Announcement) (cmcAddress : String) (plan : Plan)
    (maxRetries : UInt32) (control monitor : Link) (world : World ν) (acts : List (ArrayAct ν))
    (name status payload : String) (missing : Nat) (now : Timestamp) (metrics : Metrics) :
    let results := HostMapping.ofPayload (String.join strings) records
    let a := ((start spec cmcAddress plan maxRetries control monitor world).run acts).array
    let mappings := HostMapping.ofPayload payload (2 * spec.antennas)
    let informed := a.monitorReport name ⟨"hostname-functional-mapping", status, payload, missing⟩
      now metrics
    (results.length = records ∧
        (∀ i < records, ∀ s, strings[i]? = some s →
          results[i]? = some ((HostMapping.ofText s).mapError (.shift (i * 30)))) ∧
        ∀ i < records, strings.length ≤ i →
          results[i]? = some (.error (.mappingTruncated (i * 30 + 8)))) ∧
      (written.text.utf8ByteSize = 30 ∧ HostMapping.ofText written.text = .ok written.mapping ∧
        ∀ i < records, strings[i]? = some written.text →
          results[i]? = some (.ok written.mapping)) ∧
      a.antennas = spec.antennas ∧ a.tree.antennas = spec.antennas ∧
      mappings.length = 2 * spec.antennas ∧
      informed.1 = { a with
        tree := a.tree.mapHosts fun host => { host with
          serial := (lastWord? (HostMapping.serialFor? host.id) mappings).getD host.serial } } ∧
      informed.2.malformedInforms.value ["hostname_mapping"] =
        metrics.malformedInforms.value ["hostname_mapping"] +
          mappings.countP (HostMapping.isFaulty a.tree) := by
  intro results a mappings informed
  obtain ⟨hantennas, hserved⟩ :=
    served spec cmcAddress plan maxRetries control monitor world acts
  have hread : ∀ i < records, ∀ s, strings[i]? = some s →
      results[i]? = some ((HostMapping.ofText s).mapError (.shift (i * 30))) :=
    fun i hi s hs => HostMapping.getElem?_ofPayload_of_some hstrings hi hs
  have hset : a.setHostMapping payload = ({ a with
      tree := a.tree.mapHosts fun host => { host with
        serial := (lastWord? (HostMapping.serialFor? host.id) mappings).getD host.serial } },
      mappings.countP (HostMapping.isFaulty a.tree)) := by
    have happly := SensorTree.applyMappings_eq hserved mappings
    unfold CorrelatorArray.setHostMapping
    rw [hantennas, happly]
  have hinformed : informed = ((a.setHostMapping payload).1,
      metrics.malformed "hostname_mapping" (a.setHostMapping payload).2) := rfl
  refine ⟨⟨HostMapping.length_ofPayload _ _, hread, ?_⟩,
    ⟨written.size_text, written.ofText_text, ?_⟩, hantennas, hserved.antennas,
    HostMapping.length_ofPayload _ _, ?_, ?_⟩
  · exact fun i hi hend => HostMapping.getElem?_ofPayload_of_le hstrings hi hend
  · intro i hi hs
    rw [hread i hi _ hs, written.ofText_text]
    rfl
  · rw [hinformed, hset]
  · rw [hinformed, hset]
    exact metrics.value_malformed "hostname_mapping" _

/-- A record with characters of two bytes around its fields. -/
def accentedRecord : HostMapping.Written :=
  ⟨"höst-ma", "0a0b0c", "-------", 'x', "host", '0', '1', "é", by decide, by decide, by decide,
    by decide, by decide, by decide, by decide, by decide⟩

/-- In the record before it, a character of two bytes is cut by the end of the serial. -/
theorem mapping_record_wise_accented :
    let strings := ["host-map02030é------fhost00--", accentedRecord.text]
    let results := HostMapping.ofPayload (String.join strings) 4
    (∀ s ∈ strings, s.utf8ByteSize = 30) ∧ results.length = 4 ∧
      results[1]? = some (.ok ⟨⟨'x', 1⟩, "0a0b0c"⟩) ∧
      results[2]? = some (.error (.mappingTruncated 68)) ∧
      results[3]? = some (.error (.mappingTruncated 98)) := by
  intro strings results
  have hstrings : ∀ s ∈ strings, s.utf8ByteSize = 30 := by decide
  obtain ⟨⟨hlength, -, hend⟩, ⟨-, -, hwritten⟩, -⟩ := mapping_record_wise hstrings 4 accentedRecord
    ⟨"yard", 7148, 7149, 1⟩ "cmc" ⟨[], 4⟩ 0 ⟨0, "cmc:7148"⟩ ⟨1, "cmc:7149"⟩
    (⟨⟨[]⟩, .zero⟩ : World ScriptedNetwork) [] "sensor-value" "nominal" (String.join strings) 0 ⟨0⟩
    .zero
  exact ⟨hstrings, hlength, hwritten 1 (by decide) rfl, hend 2 (by decide) (by decide),
    hend 3 (by decide) (by decide)⟩

end ArrayMoment

end ArrayWatch
