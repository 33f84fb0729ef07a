import Mathlib.Data.List.Forall2
import TraceViewer.Wire.Basic

/-!
# Reading records and unions

A record is found by the names of its fields, so the order of its fields and the fields it
does not name make no difference to it.  The lemmas here say so once, for every reader that
goes through `record?` (`RecordReader`) or `union?`.

* Of a name that occurs at most once, looking it up finds the one field that has it
  (`lookup_eq_some_iff`), so a rearrangement finds the same (`lookup_of_perm`).
* A reader of a record sees the fields only through the lookups of the names of its layout.
  Rearranging the fields keeps these lookups, and so does a field of another name.
* A union loses its tag and is then a record of the case that the tag names, and the tag is
  found wherever it stands (`union?_of_perm`).
-/

namespace TraceViewer.Json

variable {α β : Type} {fields others : Fields} {name tag : String} {value : Json}

/-! ## What a format keeps -/

/-- Whether the order of the fields of an object makes no difference. -/
def Unordered (read : Json → Option α) : Prop :=
  ∀ ⦃fields others : Fields⦄, fields.Perm others → read (.object fields) = read (.object others)

/-- Whether a further field makes no difference to an object, unless its name is one of
those that the object makes known. -/
def Ignores (known : Fields → List String) (read : Json → Option α) : Prop :=
  ∀ ⦃fields : Fields⦄ ⦃name : String⦄ (value : Json), name ∉ known fields →
    read (.object ((name, value) :: fields)) = read (.object fields)

/-- A format that loses nothing: what is written is read back, wherever the fields of an
object stand and whatever other fields stand among them. -/
structure Faithful (write : α → Json) (read : Json → Option α) (known : Fields → List String) :
    Prop where
  read_write : ∀ a, read (write a) = some a
  unordered : Unordered read
  ignores : Ignores known read

theorem Unordered.bind {read : Json → Option α} (hread : Unordered read) (f : α → Option β) :
    Unordered fun json => (read json).bind f :=
  fun _ _ hperm => congrArg (Option.bind · f) (hread hperm)

theorem Ignores.bind {known : Fields → List String} {read : Json → Option α}
    (hread : Ignores known read) (f : α → Option β) :
    Ignores known fun json => (read json).bind f :=
  fun _ _ value hname => congrArg (Option.bind · f) (hread value hname)

/-! ## Plain values -/

@[simp]
theorem string?_string (text : String) : (string text).string? = some text := rfl

@[simp]
theorem nat?_ofNat (n : Nat) : (ofNat n).nat? = some n := rfl

@[simp]
theorem uint32?_ofUInt32 (n : UInt32) : (ofUInt32 n).uint32? = some n := by
  have hlt := n.toNat_lt_size
  simp [ofUInt32, uint32?, ofNat, hlt]

theorem mapM_map {γ : Type} {write : α → β} {read : β → Option γ} {keep : α → γ}
    (hread : ∀ a, read (write a) = some (keep a)) (items : List α) :
    (items.map write).mapM read = some (items.map keep) := by
  induction items with
  | nil => rfl
  | cons item rest ih =>
      rw [List.map_cons, List.mapM_cons, hread, ih]
      rfl

theorem list?_ofList {write : α → Json} {read : Json → Option α}
    (hread : ∀ a, read (write a) = some a) (items : List α) :
    (ofList write items).list? read = some items := by
  rw [ofList, list?, mapM_map hread, List.map_id']

@[simp]
theorem strings?_ofStrings (texts : List String) : (ofStrings texts).strings? = some texts :=
  list?_ofList string?_string texts

/-- A value that may be absent is read back unless `null` stands for a value. -/
theorem option?_ofOption {write : α → Json} {read : Json → Option α}
    (hread : ∀ a, read (write a) = some a) (hnull : ∀ a, write a ≠ .null) (content : Option α) :
    (ofOption write content).option? read = some content := by
  cases content with
  | none => rfl
  | some a =>
      unfold ofOption option?
      split
      · next hwritten => exact absurd hwritten (hnull a)
      · rw [hread, Option.map_some]

@[simp]
theorem option?_ofOption_ofNat (content : Option Nat) :
    (ofOption ofNat content).option? nat? = some content :=
  option?_ofOption nat?_ofNat (fun _ => nofun) content

@[simp]
theorem option?_ofOption_string (content : Option String) :
    (ofOption string content).option? string? = some content :=
  option?_ofOption string?_string (fun _ => nofun) content

@[simp]
theorem option?_ofOption_ofStrings (content : Option (List String)) :
    (ofOption ofStrings content).option? strings? = some content :=
  option?_ofOption strings?_ofStrings (fun _ => nofun) content

/-! ## Looking up a name -/

theorem lookup_cons_of_ne (hname : name ≠ tag) (value : Json) (fields : Fields) :
    List.lookup name ((tag, value) :: fields) = fields.lookup name := by
  rw [List.lookup_cons, beq_eq_false_iff_ne.mpr hname]

theorem lookup_cons (name tag : String) (value : Json) (fields : Fields) :
    List.lookup name ((tag, value) :: fields) =
      if name = tag then some value else fields.lookup name := by
  split_ifs with hname
  · rw [hname, List.lookup_cons_self]
  · exact lookup_cons_of_ne hname value fields

/-- Of a name that occurs once, looking it up finds the field that has it. -/
theorem lookup_eq_some_iff (hunique : fields.countP (·.1 == name) ≤ 1) :
    fields.lookup name = some value ↔ (name, value) ∈ fields := by
  induction fields with
  | nil => simp
  | cons field rest ih =>
      obtain ⟨other, first⟩ := field
      by_cases hname : name = other
      · subst hname
        -- the first field has the name, so no later one does
        have hrest : ∀ field ∈ rest, ¬ (field.1 == name) = true := by
          rw [← List.countP_eq_zero]
          rw [List.countP_cons_of_pos (by simp)] at hunique
          omega
        have hlater : (name, value) ∉ rest := fun hmem => hrest _ hmem (by simp)
        simp [hlater, eq_comm]
      · rw [List.countP_cons_of_neg (by simpa using Ne.symm hname)] at hunique
        rw [lookup_cons_of_ne hname, ih hunique]
        simp [hname]

theorem lookup_of_perm (hperm : fields.Perm others)
    (hunique : fields.countP (·.1 == name) ≤ 1) : fields.lookup name = others.lookup name := by
  refine Option.ext fun value => ?_
  rw [lookup_eq_some_iff hunique, lookup_eq_some_iff (hperm.countP_eq _ ▸ hunique), hperm.mem_iff]

/-! ## Records -/

/-- Whether a reader reads a record: it sees the fields of the record only through the
lookups of their names. -/
structure RecordReader (layout : Layout) (read : Json → Option α) : Prop where
  refuses : ∀ {json : Json}, json.record? layout = none → read json = none
  congr : ∀ {json other : Json} {fields others : Fields}, json.record? layout = some fields →
    other.record? layout = some others →
      (∀ name ∈ layout.names, fields.lookup name = others.lookup name) → read json = read other

theorem record?_object {layout : Layout}
    (hunique : ∀ name ∈ layout.names, fields.countP (·.1 == name) ≤ 1) :
    (object fields).record? layout = some fields := by
  rw [record?, if_pos (by simpa using hunique)]

/-- Two objects that a record layout cannot tell apart by the number of times that a name
occurs and by the field that is found under it. -/
theorem RecordReader.eq_of_agree {layout : Layout} {read : Json → Option α}
    (hread : RecordReader layout read)
    (hcount : ∀ name ∈ layout.names, fields.countP (·.1 == name) = others.countP (·.1 == name))
    (hlookup : (∀ name ∈ layout.names, fields.countP (·.1 == name) ≤ 1) →
      ∀ name ∈ layout.names, fields.lookup name = others.lookup name) :
    read (.object fields) = read (.object others) := by
  by_cases hunique : ∀ name ∈ layout.names, fields.countP (·.1 == name) ≤ 1
  · refine hread.congr (record?_object hunique) (record?_object fun name hname => ?_)
      (hlookup hunique)
    rw [← hcount name hname]
    exact hunique name hname
  · have hother : ¬ ∀ name ∈ layout.names, others.countP (·.1 == name) ≤ 1 := by
      intro hunique'
      refine hunique fun name hname => ?_
      rw [hcount name hname]
      exact hunique' name hname
    rw [hread.refuses (by rw [record?, if_neg (by simpa using hunique)]),
      hread.refuses (by rw [record?, if_neg (by simpa using hother)])]

/-- A reader that takes the fields of a record and then only looks up its names. -/
theorem RecordReader.of_bind {layout : Layout} {use : Fields → Option α}
    (huse : ∀ {fields others : Fields},
      (∀ name ∈ layout.names, fields.lookup name = others.lookup name) →
        use fields = use others) :
    RecordReader layout fun json => (json.record? layout).bind use where
  refuses hrefused := by rw [hrefused, Option.bind_none]
  congr hrecord hother hlookup := by
    rw [hrecord, hother, Option.bind_some, Option.bind_some, huse hlookup]

theorem RecordReader.unordered {layout : Layout} {read : Json → Option α}
    (hread : RecordReader layout read) : Unordered read :=
  fun _ _ hperm => hread.eq_of_agree (fun _ _ => hperm.countP_eq _)
    fun hunique name hname => lookup_of_perm hperm (hunique name hname)

theorem RecordReader.ignores {layout : Layout} {read : Json → Option α}
    (hread : RecordReader layout read) : Ignores (fun _ => layout.names) read := by
  intro fields extra value hextra
  have hother : ∀ name ∈ layout.names, name ≠ extra := by
    rintro name hname rfl
    exact hextra hname
  refine hread.eq_of_agree (fun name hname => ?_) fun _ name hname => ?_
  · exact List.countP_cons_of_neg (by simpa using (hother name hname).symm)
  · exact lookup_cons_of_ne (hother name hname) value fields

theorem RecordReader.reads {layout : Layout} {read : Json → Option α}
    (hread : RecordReader layout read) :
    Unordered read ∧ Ignores (fun _ => layout.names) read :=
  ⟨hread.unordered, hread.ignores⟩

theorem RecordReader.faithful {layout : Layout} {write : α → Json} {read : Json → Option α}
    (hread : RecordReader layout read) (hback : ∀ a, read (write a) = some a) :
    Faithful write read fun _ => layout.names where
  read_write := hback
  unordered := hread.unordered
  ignores := hread.ignores

/-! ## Unions -/

/-- The names that mean something in a union: its tag, and the fields of the case that the
tag names. -/
def unionNames (tag : String) (names : Json → List String) (fields : Fields) : List String :=
  tag :: ((object fields).union? tag).elim [] fun (value, _) => names value

theorem union?_object_eq_some {content : Json} :
    (object fields).union? tag = some (value, content) ↔
      fields.filter (·.1 == tag) = [(tag, value)] ∧
        content = .object (fields.filter (·.1 != tag)) := by
  rw [union?]
  split
  · next name found hfound =>
      have hmem : (name, found) ∈ fields.filter (·.1 == tag) := by simp [hfound]
      obtain rfl : name = tag := by simpa using (List.mem_filter.mp hmem).2
      simp [hfound, eq_comm]
  · next hother =>
      refine iff_of_false nofun fun h => ?_
      exact hother _ _ h.1

/-- An object of a tag and of fields with other names is the union of the two. -/
theorem union?_cons_tag (hnames : ∀ field ∈ fields, field.1 ≠ tag) :
    (object ((tag, value) :: fields)).union? tag = some (value, .object fields) := by
  have hnone : fields.filter (·.1 == tag) = [] := by
    simpa [List.filter_eq_nil_iff] using hnames
  have hall : fields.filter (·.1 != tag) = fields := by
    simpa [List.filter_eq_self] using hnames
  rw [union?_object_eq_some, List.filter_cons_of_pos (by simp), hnone,
    List.filter_cons_of_neg (by simp), hall]
  exact ⟨rfl, rfl⟩

/-- Wherever its fields stand, a union has the same tag and the same other fields. -/
theorem union?_of_perm (hperm : fields.Perm others) {content : Json}
    (hfound : (object fields).union? tag = some (value, content)) :
    (object others).union? tag = some (value, .object (others.filter (·.1 != tag))) := by
  rw [union?_object_eq_some] at hfound ⊢
  have htags := hperm.filter (·.1 == tag)
  rw [hfound.1, List.singleton_perm] at htags
  exact ⟨htags.symm, rfl⟩

theorem unordered_union {case : Json → Json → Option α} (hcase : ∀ value, Unordered (case value)) :
    Unordered fun json => (json.union? tag).bind fun (value, content) => case value content := by
  intro fields others hperm
  match hfound : (object fields).union? tag with
  | some (value, content) =>
      obtain ⟨_, rfl⟩ := union?_object_eq_some.mp hfound
      simp only [hfound, union?_of_perm hperm hfound, Option.bind_some]
      exact hcase value (hperm.filter _)
  | none =>
      -- had the rearrangement a tag, then so had the object itself
      have hnone : (object others).union? tag = none := by
        refine Option.eq_none_iff_forall_ne_some.mpr fun found hfound' => ?_
        rw [union?_of_perm hperm.symm hfound'] at hfound
        cases hfound
      simp only [hfound, hnone]

/-- A field that is not the tag stays with the other fields. -/
theorem union?_cons (hname : name ≠ tag) (extra : Json) {content : Json} :
    (object ((name, extra) :: fields)).union? tag = some (value, content) ↔
      (object fields).union? tag = some (value, .object (fields.filter (·.1 != tag))) ∧
        content = .object ((name, extra) :: fields.filter (·.1 != tag)) := by
  rw [union?_object_eq_some, union?_object_eq_some,
    List.filter_cons_of_neg (by simpa using hname), List.filter_cons_of_pos (by simpa using hname),
    and_iff_left rfl]

theorem ignores_union {case : Json → Json → Option α} {names : Json → List String}
    (hcase : ∀ value, Ignores (fun _ => names value) (case value)) :
    Ignores (unionNames tag names)
      fun json => (json.union? tag).bind fun (value, content) => case value content := by
  intro fields name extra hname
  rw [unionNames, List.mem_cons, not_or] at hname
  obtain ⟨htag, hunknown⟩ := hname
  match hfound : (object fields).union? tag with
  | some (value, content) =>
      rw [hfound] at hunknown
      obtain ⟨_, rfl⟩ := union?_object_eq_some.mp hfound
      simp only [hfound, (union?_cons htag extra).mpr ⟨hfound, rfl⟩, Option.bind_some]
      exact hcase value extra hunknown
  | none =>
      have hnone : (object ((name, extra) :: fields)).union? tag = none := by
        refine Option.eq_none_iff_forall_ne_some.mpr fun (value, content) hfound' => ?_
        rw [((union?_cons htag extra).mp hfound').1] at hfound
        cases hfound
      simp only [hfound, hnone]

/-! ## Spellings -/

/-- What stands in one field of an object: a name, and the values that may have it. -/
abbrev Part := String × (Json → Prop)

/-- The parts of an object whose fields have just these values. -/
def Fields.parts (fields : Fields) : List Part := fields.map fun (name, value) => (name, Eq value)

/-- Whether a value is an object that has a field for each of the parts, in any order, and
otherwise only fields whose names are not known. -/
def Spells (known : List String) (parts : List Part) (json : Json) : Prop :=
  ∃ fields extras others : Fields, json = .object others ∧ others.Perm (fields ++ extras) ∧
    List.Forall₂ (fun part field => field.1 = part.1 ∧ part.2 field.2) parts fields ∧
    ∀ extra ∈ extras, extra.1 ∉ known

/-- A format that reads whatever spells a value, what is written among the rest. -/
structure ReadsSpellings (write : α → Json) (read : Json → Option α)
    (spelledBy : α → Json → Prop) : Prop where
  spelledBy_write : ∀ a, spelledBy a (write a)
  read_of_spelledBy : ∀ a json, spelledBy a json → read json = some a

variable {known : List String} {parts : List Part} {json : Json}

theorem spells_object
    (hparts : List.Forall₂ (fun part field => field.1 = part.1 ∧ part.2 field.2) parts fields) :
    Spells known parts (.object fields) :=
  ⟨fields, [], fields, rfl, by rw [List.append_nil], hparts, nofun⟩

theorem forall₂_parts (fields : Fields) :
    List.Forall₂ (fun part field => field.1 = part.1 ∧ part.2 field.2) fields.parts fields := by
  induction fields with
  | nil => exact .nil
  | cons field rest ih => exact .cons ⟨rfl, rfl⟩ ih

theorem map_fst_of_forall₂
    (hparts : List.Forall₂ (fun part field => field.1 = part.1 ∧ part.2 field.2) parts fields) :
    fields.map (·.1) = parts.map (·.1) := by
  induction hparts with
  | nil => rfl
  | cons hpart _ ih => rw [List.map_cons, List.map_cons, hpart.1, ih]

theorem exists_field_of_forall₂
    (hparts : List.Forall₂ (fun part field => field.1 = part.1 ∧ part.2 field.2) parts fields)
    {part : Part} (hpart : part ∈ parts) : ∃ value, (part.1, value) ∈ fields ∧ part.2 value := by
  induction hparts with
  | nil => cases hpart
  | @cons first field _ _ hfirst _ ih =>
      rcases List.mem_cons.mp hpart with rfl | hlater
      · exact ⟨field.2, by rw [← hfirst.1]; exact List.mem_cons_self, hfirst.2⟩
      · obtain ⟨value, hfield, hvalue⟩ := ih hlater
        exact ⟨value, List.mem_cons_of_mem _ hfield, hvalue⟩

/-- A spelling of a record is read as one, and under the name of each part a value of the
part is found, under the other names nothing. -/
theorem Spells.record? {layout : Layout} (hspells : Spells layout.names parts json)
    (hnodup : (parts.map (·.1)).Nodup) (hnames : ∀ part ∈ parts, part.1 ∈ layout.names) :
    ∃ fields, json = .object fields ∧ json.record? layout = some fields ∧
      (∀ part ∈ parts, ∃ value, fields.lookup part.1 = some value ∧ part.2 value) ∧
      ∀ name ∈ layout.names, name ∉ parts.map (·.1) → fields.lookup name = none := by
  obtain ⟨fields, extras, others, rfl, hperm, hparts, hextras⟩ := hspells
  have hmap := map_fst_of_forall₂ hparts
  have hunique : ∀ name ∈ layout.names, others.countP (·.1 == name) ≤ 1 := by
    intro name hname
    have hextra : extras.countP (·.1 == name) = 0 := by
      refine List.countP_eq_zero.mpr fun extra hextra heq => hextras extra hextra ?_
      rwa [beq_iff_eq.mp heq]
    have hone := List.nodup_iff_count.mp (hmap ▸ hnodup) name
    rw [List.count, List.countP_map] at hone
    rw [hperm.countP_eq, List.countP_append, hextra]
    exact hone
  refine ⟨others, rfl, record?_object hunique, fun part hpart => ?_, fun name hname habsent => ?_⟩
  · obtain ⟨value, hfield, hvalue⟩ := exists_field_of_forall₂ hparts hpart
    refine ⟨value, ?_, hvalue⟩
    rw [lookup_eq_some_iff (hunique part.1 (hnames part hpart)), hperm.mem_iff]
    exact List.mem_append_left _ hfield
  · refine Option.eq_none_iff_forall_ne_some.mpr fun value hfound => ?_
    rw [lookup_eq_some_iff (hunique name hname), hperm.mem_iff, List.mem_append] at hfound
    rcases hfound with hfield | hextra
    · exact habsent (hmap ▸ List.mem_map_of_mem hfield)
    · exact hextras _ hextra hname

/-- A spelling of a union has the tag, and the rest is a spelling of the case. -/
theorem Spells.union? (hspells : Spells (tag :: known) ((tag, Eq value) :: parts) json)
    (hparts : ∀ part ∈ parts, part.1 ≠ tag) :
    ∃ content, json.union? tag = some (value, content) ∧ Spells known parts content := by
  obtain ⟨fields, extras, others, rfl, hperm, hforall, hextras⟩ := hspells
  cases hforall with
  | @cons _ field _ rest hfirst hrest =>
      obtain ⟨name, found⟩ := field
      obtain ⟨rfl, rfl⟩ : name = tag ∧ value = found := hfirst
      have hnames : ∀ field ∈ rest ++ extras, field.1 ≠ name := by
        intro field hfield
        rcases List.mem_append.mp hfield with hfield | hextra
        · have hmem := List.mem_map_of_mem (f := (·.1)) hfield
          rw [map_fst_of_forall₂ hrest] at hmem
          obtain ⟨part, hpart, heq⟩ := List.mem_map.mp hmem
          exact heq ▸ hparts part hpart
        · exact fun heq => hextras field hextra (heq ▸ List.mem_cons_self)
      have hfound : (object ((name, value) :: (rest ++ extras))).union? name =
          some (value, .object (rest ++ extras)) := union?_cons_tag hnames
      have hall : ((name, value) :: (rest ++ extras)).filter (·.1 != name) = rest ++ extras := by
        rw [List.filter_cons_of_neg (by simp)]
        exact List.filter_eq_self.mpr fun field hfield => by simpa using hnames field hfield
      refine ⟨_, union?_of_perm hperm.symm hfound, rest, extras, _, rfl, ?_, hrest, ?_⟩
      · exact hall ▸ hperm.filter _
      · exact fun extra hextra hknown => hextras extra hextra (List.mem_cons_of_mem _ hknown)

theorem eq_of_forall₂_parts {others : Fields}
    (hparts : List.Forall₂ (fun part field => field.1 = part.1 ∧ part.2 field.2)
      fields.parts others) : others = fields := by
  induction fields generalizing others with
  | nil =>
      cases hparts
      rfl
  | cons field rest ih =>
      cases hparts with
      | @cons _ other _ later hfirst hrest =>
          obtain ⟨hname, hvalue⟩ : other.1 = field.1 ∧ field.2 = other.2 := hfirst
          rw [ih hrest, Prod.ext hname hvalue.symm]

theorem Ignores.append {read : Json → Option α} (hread : Ignores (fun _ => known) read)
    {extras : Fields} (hextras : ∀ extra ∈ extras, extra.1 ∉ known) (fields : Fields) :
    read (.object (extras ++ fields)) = read (.object fields) := by
  induction extras with
  | nil => rfl
  | cons extra rest ih =>
      obtain ⟨hextra, hrest⟩ := List.forall_mem_cons.mp hextras
      rw [List.cons_append, hread extra.2 hextra, ih hrest]

/-- A record that loses nothing is read from all its spellings. -/
theorem Faithful.read_of_spells {write : α → Json} {read : Json → Option α}
    (hfaithful : Faithful write read fun _ => known) {a : α} (hwritten : write a = .object fields)
    (hspells : Spells known fields.parts json) : read json = some a := by
  obtain ⟨same, extras, others, rfl, hperm, hparts, hextras⟩ := hspells
  obtain rfl := eq_of_forall₂_parts hparts
  rw [hfaithful.unordered (hperm.trans List.perm_append_comm), hfaithful.ignores.append hextras,
    ← hwritten, hfaithful.read_write]

end TraceViewer.Json
