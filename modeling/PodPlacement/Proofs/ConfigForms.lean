import Mathlib
import PodPlacement.Config.File
import PodPlacement.Config.Json
import PodPlacement.Proofs.RecordForms

/-! # Configurations in two notations — JSON and HCL say the same

    A configuration is written as an object of five fields: in JSON, or in HCL
    under `chooser` in a file.  Both readers share `ConfigFields.put`, and what
    each notation brings of its own is how it writes and reads a text, a number
    and the lack of one (`ConfigWriter`).  So everything is proved once for any
    notation that reads back what it writes.

    * `ConfigWriter.put_member` : one member fills the slot of its field and
      nothing else.
    * `ConfigWriter.config_reading` : what is missing holds by default, and the
      three ways of being optional agree with the defaults of the object.
    * `HclItem.slot?_of_last` : of the items of a file only the last one of a
      name tells what stands under it.

    Main statement: `ChooserConfig.notations_agree`. -/

namespace PodPlacement

/-! ## Writing in some notation -/

/-- How the values of configurations are written, so that they are read back. -/
structure ConfigWriter {ν ε : Type} (how : ConfigNotation ν ε) where
  text : String → ν
  number : UInt64 → ν
  nothing : ν
  text_read : ∀ s, how.text (text s) = .ok s
  strategy_read : ∀ strategy : ChooserStrategy, how.strategy (text strategy.name) = .ok strategy
  points_read : ∀ n, how.points (number n) = .ok n
  number_read : ∀ n, how.optional (number n) = .ok (some n)
  nothing_read : how.optional nothing = .ok none

namespace ConfigWriter

variable {ν ε : Type} {how : ConfigNotation ν ε} (writer : ConfigWriter how)

/-- A number or nothing. -/
def option : Option UInt64 → ν
  | none => writer.nothing
  | some n => writer.number n

/-- The members of a configuration's object. -/
def members (config : ChooserConfig) : List (String × ν) :=
  [("replica_group", writer.text config.replicaGroup),
   ("strategy", writer.text config.strategy.name),
   ("ring_points", writer.number config.ringPoints),
   ("list_timeout_ms", writer.option config.listTimeoutMs),
   ("seed", writer.option config.seed)]

/-- The members that say what holds of a configuration by default. -/
def defaults : List (String × ν) :=
  [("strategy", writer.text ChooserStrategy.random.name),
   ("ring_points", writer.number (UInt64.ofNat HashRing.defaultPoints)),
   ("list_timeout_ms", writer.nothing), ("seed", writer.nothing)]

theorem option_read (n? : Option UInt64) : how.optional (writer.option n?) = .ok n? := by
  cases n? with
  | none => exact writer.nothing_read
  | some n => exact writer.number_read n

theorem names_members (config : ChooserConfig) :
    (writer.members config).map Prod.fst = ConfigFields.names := rfl

end ConfigWriter

/-! ## Reading member by member -/

/-- How far a reader of configurations has come when it has seen members of these names. -/
def ChooserConfig.reading (config : ChooserConfig) (seen : List String) : ConfigFields where
  replicaGroup := slot seen "replica_group" config.replicaGroup
  strategy := slot seen "strategy" config.strategy
  ringPoints := slot seen "ring_points" config.ringPoints
  listTimeoutMs := slot seen "list_timeout_ms" config.listTimeoutMs
  seed := slot seen "seed" config.seed

theorem ChooserConfig.reading_cons_of_other (config : ChooserConfig) (seen : List String)
    {name : String} (h : name ∉ ConfigFields.names) :
    config.reading (name :: seen) = config.reading seen := by
  have hne : ∀ field ∈ ConfigFields.names, field ≠ name := fun field hfield heq => h (heq ▸ hfield)
  unfold reading
  rw [slot_cons_of_ne (hne _ (by decide)), slot_cons_of_ne (hne _ (by decide)),
    slot_cons_of_ne (hne _ (by decide)), slot_cons_of_ne (hne _ (by decide)),
    slot_cons_of_ne (hne _ (by decide))]

namespace ConfigWriter

variable {ν ε : Type} {how : ConfigNotation ν ε} (writer : ConfigWriter how)

/-- **ONE MEMBER OF A CONFIGURATION IS READ** into the slot of its field, and the other slots
stay. -/
theorem put_member (config : ChooserConfig) (seen : List String) {m : String × ν}
    (h : m ∈ writer.members config) (hfresh : m.1 ∉ seen) :
    (config.reading seen).put how m.1 m.2 = .ok (config.reading (m.1 :: seen)) := by
  unfold members at h
  simp only [List.mem_cons, List.not_mem_nil, or_false] at h
  have hgroup := writer.text_read config.replicaGroup
  have hstrategy := writer.strategy_read config.strategy
  have hpoints := writer.points_read config.ringPoints
  have hlimit := writer.option_read config.listTimeoutMs
  have hseed := writer.option_read config.seed
  rcases h with rfl | rfl | rfl | rfl | rfl
  all_goals
    simp [ConfigFields.put, ChooserConfig.reading, fillField_slot how.fail hfresh, hgroup,
      hstrategy, hpoints, hlimit, hseed, slot_cons_of_ne]

/-- **WHAT IS MISSING HOLDS BY DEFAULT**, so the configuration is known from the members that are
there. -/
theorem config_reading {config : ChooserConfig} {seen : List String}
    (h : ∀ m ∈ writer.members config, m.1 ∈ seen ∨ m ∈ writer.defaults) :
    (config.reading seen).config = .ok config := by
  simp only [members, List.mem_cons, List.not_mem_nil, or_false, defaults, forall_eq_or_imp,
    Prod.mk.injEq, String.reduceEq, false_and, or_self, true_and, false_or, forall_eq] at h
  obtain ⟨hgroup, hstrategy, hpoints, hlimit, hseed⟩ := h
  have hgroup' : slot seen "replica_group" config.replicaGroup = some config.replicaGroup :=
    if_pos hgroup
  have hstrategy' : (slot seen "strategy" config.strategy).getD .random = config.strategy :=
    getD_slot (hstrategy.imp id (eq_of_read writer.strategy_read))
  have hpoints' : (slot seen "ring_points" config.ringPoints).getD
      (UInt64.ofNat HashRing.defaultPoints) = config.ringPoints :=
    getD_slot (hpoints.imp id (eq_of_read writer.points_read))
  have hlimit' : (slot seen "list_timeout_ms" config.listTimeoutMs).getD none
      = config.listTimeoutMs :=
    getD_slot (hlimit.imp id fun h => eq_of_read writer.option_read h)
  have hseed' : (slot seen "seed" config.seed).getD none = config.seed :=
    getD_slot (hseed.imp id fun h => eq_of_read writer.option_read h)
  simp only [ChooserConfig.reading, ConfigFields.config, hgroup', hstrategy', hpoints', hlimit',
    hseed']

end ConfigWriter

/-! ## The two notations -/

namespace ChooserConfig

/-- Numbers of 64 bits are read back from JSON. -/
theorem asWord_ofNat (expected : String) (n : UInt64) :
    (Json.number (.ofNat n.toNat)).asWord expected = .ok n := by
  have hvalue : (JsonNumber.ofNat n.toNat).value = .ok (.unsigned n.toNat) := by
    have hlt : n.toNat < JsonNumber.bound := n.toNat_lt_size
    unfold JsonNumber.value JsonNumber.ofNat
    simp [Digits.value_shortest, hlt]
  simp only [Json.asWord, hvalue]
  rw [UInt64.ofNat_toNat]

/-- Configurations in JSON. -/
def jsonWriter : ConfigWriter jsonNotation where
  text := .ofString
  number n := .number (.ofNat n.toNat)
  nothing := .null
  text_read _ := rfl
  strategy_read strategy := Json.asVariant_ofString strategy.ofName?_name
  points_read := asWord_ofNat "usize"
  number_read n := by
    show ((Json.number (.ofNat n.toNat)).asWord "u64").map some = _
    rw [asWord_ofNat]
    rfl
  nothing_read := rfl

theorem members_jsonWriter (config : ChooserConfig) :
    jsonWriter.members config = config.members := by
  have hword (n? : Option UInt64) : jsonWriter.option n? = wordJson n? := by
    cases n? <;> rfl
  unfold ConfigWriter.members members
  rw [hword, hword]
  rfl

/-- Numbers of 64 bits are read back from HCL. -/
theorem asWord_whole (expected : String) (n : UInt64) :
    HclExpr.asWord expected (.number (.whole n.toNat)) = .ok n := by
  rw [HclExpr.asWord.eq_1, if_neg (by omega), Int.toNat_natCast, UInt64.ofNat_toNat]

/-- Configurations in HCL. -/
def hclWriter : ConfigWriter hclNotation where
  text := .string
  number n := .number (.whole n.toNat)
  nothing := .null
  text_read _ := rfl
  strategy_read strategy := HclExpr.asVariant_string strategy.ofName?_name
  points_read := asWord_whole "usize"
  number_read n := by
    show (HclExpr.asWord "u64" (.number (.whole n.toNat))).map some = _
    rw [asWord_whole]
    rfl
  nothing_read := rfl

/-- The objects in JSON that stand for a configuration. -/
def JsonVaried (config : ChooserConfig) : List (String × Json) → Prop :=
  (jsonReader.recordFields (by decide) jsonWriter.defaults).Varied config.members

theorem JsonVaried.faithful {config : ChooserConfig} {written : List (String × Json)}
    (h : config.JsonVaried written) :
    (jsonReader.recordFields (by decide) jsonWriter.defaults).Faithful (jsonWriter.members config)
      written := by
  unfold JsonVaried at h
  rw [← members_jsonWriter] at h
  exact RecordFields.Varied.faithful h (jsonWriter.names_members config)

/-- The values of a configuration's members are whole. -/
theorem whole_of_mem_members {config : ChooserConfig} {m : String × Json}
    (h : m ∈ jsonWriter.members config) : m.2.Whole := by
  have hnumber (n : UInt64) : (jsonWriter.number n).Whole := .number (JsonNumber.proper_ofNat _)
  have hoption (n? : Option UInt64) : (jsonWriter.option n?).Whole := by
    cases n? with
    | none => exact .null
    | some n => exact hnumber n
  unfold ConfigWriter.members at h
  simp only [List.mem_cons, List.not_mem_nil, or_false] at h
  rcases h with rfl | rfl | rfl | rfl | rfl
  · exact .string config.replicaGroup
  · exact .string config.strategy.name
  · exact hnumber config.ringPoints
  · exact hoption config.listTimeoutMs
  · exact hoption config.seed

/-- **A CONFIGURATION IS READ BACK** from every JSON object that stands for it. -/
theorem ofJson_of_varied {config : ChooserConfig} {written : List (String × Json)}
    (h : config.JsonVaried written) : ofJson (.record written) = .ok config := by
  have hdecode := Json.RecordReader.decode_of_faithful h.faithful (jsonWriter.names_members config)
    config.reading rfl (fun seen m hm hfresh => jsonWriter.put_member config seen hm hfresh)
    (fun seen name hname => config.reading_cons_of_other seen hname)
  have hconfig : (config.reading (RecordFields.seenIn written)).config = .ok config :=
    jsonWriter.config_reading fun m hm => (h.faithful.missing m hm).imp RecordFields.mem_seenIn id
  unfold ofJson
  rw [hdecode]
  show ((config.reading (RecordFields.seenIn written)).config).mapError _ = _
  rw [hconfig]
  rfl

end ChooserConfig

/-! ## Objects in HCL -/

/-- A key that is this name, bare or between quotes. -/
def HclKey.Spells (key : HclKey) (name : String) : Prop :=
  key = .name name ∨ key = .value (.string name)

namespace ChooserConfig

/-- The fields of configurations in HCL; members of other names have any value. -/
def hclFields : RecordFields HclExpr :=
  ⟨ConfigFields.names, by decide, hclWriter.defaults, fun _ => True⟩

/-- The entries in HCL that stand for a configuration: each spells the name and has the value of a
member. -/
def HclVaried (config : ChooserConfig) (entries : List (HclKey × HclExpr)) : Prop :=
  ∃ written, hclFields.Varied (hclWriter.members config) written
    ∧ List.Forall₂ (fun entry m => entry.1.Spells m.1 ∧ entry.2 = m.2) entries written

/-- Takes in a member; one that is no field is passed over. -/
def putNamed (read : ConfigFields) (m : String × HclExpr) : Except DecodeFault ConfigFields :=
  if m.1 ∈ ConfigFields.names then read.put hclNotation m.1 m.2 else .ok read

theorem putEntry_of_spells {entry : HclKey × HclExpr} {m : String × HclExpr}
    (h : entry.1.Spells m.1 ∧ entry.2 = m.2) (read : ConfigFields) :
    putEntry read entry = putNamed read m := by
  obtain ⟨key, value⟩ := entry
  obtain ⟨hkey, rfl⟩ := h
  have hname : HclExpr.keyName "field identifier" key = .ok (.word m.1) := by
    rcases hkey with rfl | rfl
    · rfl
    · rw [HclExpr.keyName, HclExpr.asName]
  unfold putEntry putNamed
  rw [hname]
  by_cases hfield : m.1 ∈ ConfigFields.names
  · have hamong : (HclExpr.Named.word m.1).among ConfigFields.names = some m.1 := if_pos hfield
    rw [if_pos hfield]
    simp only [bind, Except.bind, hamong]
  · have hamong : (HclExpr.Named.word m.1).among ConfigFields.names = none := if_neg hfield
    rw [if_neg hfield]
    simp only [bind, Except.bind, hamong]
    rfl

theorem foldlM_putEntry {entries : List (HclKey × HclExpr)} {written : List (String × HclExpr)}
    (h : List.Forall₂ (fun entry m => entry.1.Spells m.1 ∧ entry.2 = m.2) entries written)
    (read : ConfigFields) : entries.foldlM putEntry read = written.foldlM putNamed read := by
  induction h generalizing read with
  | nil => rfl
  | @cons entry m entries written hm _ ih =>
      rw [List.foldlM_cons, List.foldlM_cons, putEntry_of_spells hm]
      congr 1
      funext read
      exact ih read

/-- **A CONFIGURATION IS READ BACK** from every HCL object that stands for it. -/
theorem ofHcl_of_varied {config : ChooserConfig} {entries : List (HclKey × HclExpr)}
    (h : config.HclVaried entries) : ofHcl (.object entries) = .ok config := by
  obtain ⟨written, hvaried, hspelled⟩ := h
  have hnames : (hclWriter.members config).map Prod.fst = hclFields.names :=
    hclWriter.names_members config
  have hfaithful := hvaried.faithful hnames
  have hreads : hclFields.Reads (hclWriter.members config) putNamed config.reading := by
    refine ⟨?_, ?_⟩
    · intro seen m hm hfresh
      have hname : m.1 ∈ ConfigFields.names := RecordFields.mem_names_of_mem hnames hm
      unfold putNamed
      rw [if_pos hname]
      exact hclWriter.put_member config seen hm hfresh
    · intro seen m (hname : m.1 ∉ ConfigFields.names) _
      unfold putNamed
      rw [if_neg hname, config.reading_cons_of_other seen hname]
  have hfold : entries.foldlM putEntry .blank
      = .ok (config.reading (RecordFields.seenIn written)) :=
    (foldlM_putEntry hspelled _).trans (RecordFields.foldlM_of_faithful hfaithful hreads)
  show (entries.foldlM putEntry .blank >>= fun read => read.config) = _
  rw [hfold]
  exact hclWriter.config_reading fun m hm =>
    (hfaithful.missing m hm).imp RecordFields.mem_seenIn id

end ChooserConfig

/-! ## Files -/

namespace HclItem

/-- The name that an attribute or a block stands under. -/
def name : HclItem → String
  | .attribute name _ => name
  | .block name _ _ => name

/-- What stands under a name. -/
def slot? (name : String) (slots : List (String × Slot)) : Option Slot :=
  (slots.find? (·.1 = name)).map Prod.snd

theorem slot?_cons (name k : String) (s : Slot) (rest : List (String × Slot)) :
    slot? name ((k, s) :: rest) = if k = name then some s else slot? name rest := by
  unfold slot?
  by_cases h : k = name
  · rw [if_pos h, List.find?_cons_of_pos (by simpa using h)]
    rfl
  · rw [if_neg h, List.find?_cons_of_neg (by simpa using h)]

/-- A change shows under its name and nowhere else. -/
theorem slot?_update (name k : String) (f : Option Slot → Slot) (slots : List (String × Slot)) :
    slot? name (update k f slots)
      = if k = name then some (f (slot? k slots)) else slot? name slots := by
  induction slots with
  | nil =>
      rw [update, slot?_cons]
      rfl
  | cons head rest ih =>
      obtain ⟨n, s⟩ := head
      rw [update]
      by_cases hn : n = k
      · subst hn
        rw [if_pos rfl, slot?_cons, slot?_cons, slot?_cons, if_pos rfl]
        by_cases h : n = name
        · rw [if_pos h, if_pos h]
        · rw [if_neg h, if_neg h, if_neg h]
      · rw [if_neg hn, slot?_cons, slot?_cons, slot?_cons, if_neg hn, ih]
        by_cases h : k = name
        · rw [if_pos h, if_pos h, if_neg fun heq => hn (heq.trans h.symm)]
        · rw [if_neg h, if_neg h]

/-- A block shows under its name alone. -/
theorem slot?_putBlock {name k : String} (h : k ≠ name) (object : HclExpr) (labels : List String)
    (slots : List (String × Slot)) :
    slot? name (putBlock object labels k slots) = slot? name slots := by
  cases labels with
  | nil => rw [putBlock, slot?_update, if_neg h]
  | cons label labels => rw [putBlock, slot?_update, if_neg h]

/-- Items of other names leave a slot as it is. -/
theorem slot?_putAll {name : String} {items : List HclItem} (h : ∀ item ∈ items, item.name ≠ name)
    (slots : List (String × Slot)) : slot? name (putAll slots items) = slot? name slots := by
  induction items generalizing slots with
  | nil => rw [putAll]
  | cons item rest ih =>
      have hitem := h item (List.mem_cons_self ..)
      have hrest := ih fun item hitem => h item (List.mem_cons_of_mem _ hitem)
      rcases item with ⟨k, value⟩ | ⟨k, labels, body⟩
      · have hk : k ≠ name := hitem
        rw [putAll, hrest, slot?_update, if_neg hk]
      · have hk : k ≠ name := hitem
        rw [putAll, hrest, slot?_putBlock hk]

theorem putAll_append (slots : List (String × Slot)) (before after : List HclItem) :
    putAll slots (before ++ after) = putAll (putAll slots before) after := by
  induction before generalizing slots with
  | nil => rw [putAll, List.nil_append]
  | cons item rest ih =>
      rcases item with ⟨k, value⟩ | ⟨k, labels, body⟩
      · rw [List.cons_append, putAll, putAll, ih]
      · rw [List.cons_append, putAll, putAll, ih]

/-- **THE LAST ITEM OF A NAME DECIDES**: after an attribute that no item of its name follows, its
value stands under the name. -/
theorem slot?_of_last {name : String} {before after : List HclItem} (value : HclExpr)
    (h : ∀ item ∈ after, item.name ≠ name) :
    slot? name (putAll [] (before ++ .attribute name value :: after)) = some (.value value) := by
  rw [putAll_append, putAll, slot?_putAll h, slot?_update, if_pos rfl]

/-- A file that holds one attribute on a line of its own is read as that attribute. -/
theorem ofText?_attribute {s name : String} (rest : List Char) {value : HclExpr}
    (hspace : HclToken.space s.toList = s.toList)
    (hname : HclToken.name? s.toList = some (name, '=' :: rest))
    (hvalue : readValue? HclRoom.maxLevels rest = some (value, ['\n'])) :
    ofText? s = some [.attribute name value] := by
  have hassign : HclToken.inlineSpace ('=' :: rest) = '=' :: rest := rfl
  have hattribute : readAttribute? HclRoom.maxLevels s.toList
      = some (.attribute name value, ['\n']) := by
    simp only [readAttribute?, hname, Option.bind_eq_bind, Option.bind_some, hassign, hvalue]
    rfl
  have hitem : readItem? (2 * s.length + 1) HclRoom.maxLevels s.toList
      = some (.attribute name value, ['\n']) := by
    simp only [readItem?, hname, Option.bind_eq_bind, Option.bind_some, hassign]
    exact hattribute
  have hitems : readItems? (2 * s.length + 2) HclRoom.maxLevels s.toList
      = some ([.attribute name value], []) := by
    simp only [readItems?, hname, hitem, Option.bind_eq_bind, Option.bind_some]
    rfl
  have hdistinct : distinct [.attribute name value] = true := by
    simp [distinct, attributeName?]
  unfold ofText?
  rw [hspace, hitems]
  show (guard (distinct [.attribute name value]) >>= fun _ => some _) = _
  rw [hdistinct]
  rfl

/-- A search among entries by name is one among slots. -/
theorem findSome?_slotEntries (name : String) (slots : List (String × Slot)) :
    ((slotEntries slots).findSome? fun
      | (.name n, value) => if n = name then some value else none
      | _ => none) = (slot? name slots).map slotExpr := by
  induction slots with
  | nil =>
      rw [slotEntries]
      rfl
  | cons head rest ih =>
      obtain ⟨n, s⟩ := head
      rw [slotEntries, slot?_cons, List.findSome?_cons]
      by_cases h : n = name
      · simp only [if_pos h]
        rfl
      · simp only [if_neg h]
        exact ih

end HclItem

namespace ChooserConfig

/-- The items of a file whose attribute `chooser` is an object with these entries. -/
def HoldsChooser (items : List HclItem) (entries : List (HclKey × HclExpr)) : Prop :=
  ∃ before after, items = before ++ .attribute sectionName (.object entries) :: after
    ∧ ∀ item ∈ after, item.name ≠ sectionName

theorem ofHclItems_eq (items : List HclItem) :
    ofHclItems items
      = match (HclItem.slot? sectionName (HclItem.putAll [] items)).map HclItem.slotExpr with
        | some chooser => ofHcl chooser
        | none => .error (.missingField sectionName) := by
  rw [← HclItem.findSome?_slotEntries]
  rfl

theorem ofHclItems_of_holds {items : List HclItem} {entries : List (HclKey × HclExpr)}
    (h : HoldsChooser items entries) : ofHclItems items = ofHcl (.object entries) := by
  obtain ⟨before, after, rfl, hafter⟩ := h
  rw [ofHclItems_eq, HclItem.slot?_of_last _ hafter, Option.map_some, HclItem.slotExpr]

theorem eq_validation_of_validate {config : ChooserConfig} {e : ConfigError}
    (h : config.validate = .error e) : e = .validation config.issues :=
  (config.validate_eq_error_iff.1 h).1

/-- **THE NOTATIONS AGREE.**  Whatever object stands for a configuration, in JSON or under `chooser`
in a file, it is read as that configuration; loading the file refuses it for just the rules that it
breaks. -/
theorem notations_agree (config : ChooserConfig) :
    (∀ written, config.JsonVaried written →
      (∀ text, Json.ofText text = (.record written, []) → ofJsonText text = .ok config)
        ∧ Json.ofText (Json.record written).text = (.record written, []))
      ∧ ∀ (storage : Storage) (path text : String) (items : List HclItem)
        (entries : List (HclKey × HclExpr)), storage.readText path = .ok text →
        HclItem.ofText? text = some items → HoldsChooser items entries →
        config.HclVaried entries →
          parseFile storage path = .ok config
            ∧ (config.validate = .ok () → loadFile storage path = .ok config)
            ∧ ∀ e, config.validate = .error e →
              loadFile storage path = .error e ∧ e = .validation config.issues := by
  refine ⟨fun written h => ⟨?_, ?_⟩, ?_⟩
  · intro text hread
    exact Json.decodeText_of_ok hread (ofJson_of_varied h)
  · exact Json.ofText_text
      (Json.RecordReader.whole_of_faithful h.faithful fun m hm => whole_of_mem_members hm)
  · intro storage path text items entries hstored hitems hholds hvaried
    have hparse : parseFile storage path = .ok config := by
      have htext : ofHclText path text = .ok config := by
        rw [ofHclText, hitems]
        show (ofHclItems items).mapError _ = _
        rw [ofHclItems_of_holds hholds, ofHcl_of_varied hvaried]
        rfl
      unfold parseFile
      rw [hstored]
      exact htext
    have hload : loadFile storage path = config.validate.map fun _ => config := by
      unfold loadFile
      rw [hparse]
      show (config.validate >>= fun _ => pure config) = _
      cases config.validate <;> rfl
    refine ⟨hparse, ?_, ?_⟩
    · intro hvalid
      rw [hload, hvalid]
      rfl
    · intro e hinvalid
      refine ⟨?_, eq_validation_of_validate hinvalid⟩
      rw [hload, hinvalid]
      rfl

/-- The configuration that leaves all but its group out. -/
def lone (group : String) : ChooserConfig := ⟨group, .random, 128, none, none⟩

theorem varied_lone {ν ε : Type} {how : ConfigNotation ν ε} (writer : ConfigWriter how)
    (fields : RecordFields ν) (hdefaults : fields.defaults = writer.defaults) (group : String) :
    fields.Varied (writer.members (lone group)) [("replica_group", writer.text group)] := by
  have hown : fields.Varied (writer.members (lone group)) (writer.members (lone group)) := .same
  have hgroup := hown.reordered (List.perm_append_singleton ("replica_group", _) _).symm
  have hall : ∀ m ∈ writer.defaults, m ∈ fields.defaults := fun m hm => hdefaults ▸ hm
  exact (((hgroup.leftOut (hall _ (.head _))).leftOut (hall _ (.tail _ (.head _)))).leftOut
    (hall _ (.tail _ (.tail _ (.head _))))).leftOut
      (hall _ (.tail _ (.tail _ (.tail _ (.head _)))))

theorem hclVaried_lone (group : String) :
    (lone group).HclVaried [(.value (.string "replica_group"), .string group)] :=
  ⟨_, varied_lone hclWriter hclFields rfl group, .cons ⟨Or.inr rfl, rfl⟩ .nil⟩

/-- A configuration that leaves all but its group out is read from either notation; one without the
name of a group is refused when its file is loaded. -/
theorem lone_group_is_read_in_both_notations :
    let storage (text : String) : Storage := ⟨.folder [("chooser.hcl", .file text.toUTF8)], []⟩
    ofJsonText "\x7b\"note\":null,\"replica_group\":\"a\"\x7d" = .ok (lone "a")
      ∧ loadFile (storage "chooser=\x7b\"replica_group\"=\"a\"\x7d\n") "chooser.hcl"
        = .ok (lone "a")
      ∧ loadFile (storage "chooser=\x7b\"replica_group\"=\"\"\x7d\n") "chooser.hcl"
        = .error (.validation [.emptyReplicaGroup]) := by
  intro storage
  have hwritten : (lone "a").JsonVaried [("note", .null), ("replica_group", .ofString "a")] := by
    unfold JsonVaried
    rw [← members_jsonWriter]
    exact (varied_lone jsonWriter _ rfl "a").added (by decide) .null
  have hjson := (notations_agree (lone "a")).1 _ hwritten
  have htext : (Json.record [("note", .null), ("replica_group", .ofString "a")]).text
      = "\x7b\"note\":null,\"replica_group\":\"a\"\x7d" := by decide +kernel
  refine ⟨hjson.1 _ (htext ▸ hjson.2), ?_, ?_⟩
  · have hstored : (storage "chooser=\x7b\"replica_group\"=\"a\"\x7d\n").readText "chooser.hcl"
        = .ok "chooser=\x7b\"replica_group\"=\"a\"\x7d\n" := rfl
    have hitems : HclItem.ofText? "chooser=\x7b\"replica_group\"=\"a\"\x7d\n"
        = some [.attribute sectionName
          (.object [(.value (.string "replica_group"), .string "a")])] :=
      HclItem.ofText?_attribute "\x7b\"replica_group\"=\"a\"\x7d\n".toList (by decide +kernel)
        (by decide +kernel) (by cbv)
    exact ((notations_agree (lone "a")).2 _ _ _ _ _ hstored hitems ⟨[], [], rfl, List.forall_mem_nil _⟩
      (hclVaried_lone "a")).2.1 rfl
  · have hstored : (storage "chooser=\x7b\"replica_group\"=\"\"\x7d\n").readText "chooser.hcl"
        = .ok "chooser=\x7b\"replica_group\"=\"\"\x7d\n" := rfl
    have hitems : HclItem.ofText? "chooser=\x7b\"replica_group\"=\"\"\x7d\n"
        = some [.attribute sectionName
          (.object [(.value (.string "replica_group"), .string "")])] :=
      HclItem.ofText?_attribute "\x7b\"replica_group\"=\"\"\x7d\n".toList (by decide +kernel)
        (by decide +kernel) (by cbv)
    exact (((notations_agree (lone "")).2 _ _ _ _ _ hstored hitems ⟨[], [], rfl, List.forall_mem_nil _⟩
      (hclVaried_lone "")).2.2 _ rfl).1

end ChooserConfig

end PodPlacement
