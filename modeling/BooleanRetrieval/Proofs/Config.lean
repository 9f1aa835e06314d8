/-
# Reading configurations

A configuration is given by an object of members in any order.  Each known one sets its field,
and the others, whatever their values, are passed over; fields without a member keep their
defaults, and no field may be set twice.  A written configuration gives every field, so it is
read back.
-/

import BooleanRetrieval.Config
import BooleanRetrieval.Proofs.Database.Build
import BooleanRetrieval.Proofs.Json.Value

namespace BooleanRetrieval.Config

open Json

/-! ## Fields -/

/-- The values of a field. -/
def Field.Value : Field → Type
  | indexPath | resultPath | analyzer => String
  | lowercase | analyzeQueryTerms => Bool
  | resultPaths => PathStyle

/-- The value of a field in a configuration. -/
def get (config : Config) : (field : Field) → field.Value
  | .indexPath => config.indexPath
  | .resultPath => config.resultPath
  | .analyzer => config.analyzer
  | .lowercase => config.lowercase
  | .analyzeQueryTerms => config.analyzeQueryTerms
  | .resultPaths => config.resultPaths

/-- A configuration with another value in a field. -/
def set (config : Config) : (field : Field) → field.Value → Config
  | .indexPath, value => { config with indexPath := value }
  | .resultPath, value => { config with resultPath := value }
  | .analyzer, value => { config with analyzer := value }
  | .lowercase, value => { config with lowercase := value }
  | .analyzeQueryTerms, value => { config with analyzeQueryTerms := value }
  | .resultPaths, value => { config with resultPaths := value }

@[simp] theorem get_set (config : Config) (field : Field) (value : field.Value) :
    (config.set field value).get field = value := by
  cases field <;> rfl

theorem get_set_of_ne (config : Config) {field other : Field} (value : field.Value)
    (hother : other ≠ field) : (config.set field value).get other = config.get other := by
  cases field <;> cases other <;> first | rfl | exact absurd rfl hother

/-- Configurations are told apart by their fields. -/
theorem eq_of_get_eq {first second : Config} (hget : ∀ field, first.get field = second.get field) :
    first = second := by
  obtain ⟨_, _, _, _, _, _⟩ := first
  obtain ⟨_, _, _, _, _, _⟩ := second
  simp only [mk.injEq]
  exact ⟨hget .indexPath, hget .resultPath, hget .analyzer, hget .lowercase,
    hget .analyzeQueryTerms, hget .resultPaths⟩

/-- A configuration has the values that are set, and those of another in all other fields. -/
structure Overrides (config base : Config) (sets : (field : Field) → field.Value → Prop) :
    Prop where
  set : ∀ field value, sets field value → config.get field = value
  kept : ∀ field, (∀ value, ¬sets field value) → config.get field = base.get field

theorem Field.ofName?_eq_some_iff {name : String} {field : Field} :
    ofName? name = some field ↔ name = field.name := by
  constructor
  · intro hname
    have hfound := List.find?_some hname
    exact (of_decide_eq_true hfound).symm
  · rintro rfl
    cases field <;> decide +kernel

theorem style?_eq_some_iff {name : String} {style : PathStyle} :
    style? name = some style ↔ name = styleName style := by
  constructor
  · intro hname
    have hfound := List.find?_some hname
    exact (of_decide_eq_true hfound).symm
  · rintro rfl
    cases style <;> decide +kernel

/-! ## Values -/

/-- A text begins with a path style: with its name, or with an object that has the name as its
only key, and no value. -/
inductive IsStyle (style : PathStyle) (chars rest : List Char) : Prop where
  | name : IsText (styleName style) chars rest → IsStyle style chars rest
  | object {inner colon null brace : List Char} : Spaced chars ('\x7b' :: inner) →
      IsText (styleName style) inner colon → Spaced colon (':' :: null) →
      Spaced null ("null".toList ++ brace) → Spaced brace ('\x7d' :: rest) →
      IsStyle style chars rest

/-- A text begins with a value of a field. -/
def Field.IsValue : (field : Field) → field.Value → List Char → List Char → Prop
  | indexPath, value | resultPath, value | analyzer, value => IsText value
  | lowercase, value | analyzeQueryTerms, value => IsTruth value
  | resultPaths, value => IsStyle value

section Values

variable {chars rest : List Char}

theorem styleValue?_eq_some_iff {style : PathStyle} :
    styleValue? chars = some (style, rest) ↔ IsStyle style chars rest := by
  rw [styleValue?]
  constructor
  · intro hread
    split at hread
    · next inner hinner =>
        simp only [Option.bind_eq_bind, Option.bind_eq_some_iff, Prod.exists,
          stringValue?_eq_some_iff, style?_eq_some_iff, Option.pure_def, Option.some.injEq,
          Prod.mk.injEq] at hread
        obtain ⟨_, colon, hname, _, rfl, null, hnull, brace, hbrace, _, hrest, rfl, rfl⟩ := hread
        exact .object (dropSpace_eq_cons_iff.mp hinner).1 hname
          ((expect_dropSpace_eq_some_iff (by decide)).mp hnull)
          ((expect_dropSpace_eq_some_iff (by decide)).mp hbrace)
          ((expect_dropSpace_eq_some_iff (by decide)).mp hrest)
    · simp only [stringValue?_dropSpace, Option.bind_eq_bind, Option.bind_eq_some_iff, Prod.exists,
        stringValue?_eq_some_iff, style?_eq_some_iff, Option.pure_def, Option.some.injEq,
        Prod.mk.injEq] at hread
      obtain ⟨_, _, hname, _, rfl, rfl, rfl⟩ := hread
      exact .name hname
  · intro hstyle
    have hknown : style? (styleName style) = some style := style?_eq_some_iff.mpr rfl
    cases hstyle with
    | name hname =>
        have hread := stringValue?_eq_some_iff.mpr hname
        obtain ⟨body, hbody, -⟩ := hname
        rw [← stringValue?_dropSpace, hbody.dropSpace_eq (by decide)] at hread
        simp [hbody.dropSpace_eq (c := '"') (by decide), hread, hknown]
    | @object inner colon null brace hinner hname hcolon hnull hbrace =>
        have hread := stringValue?_eq_some_iff.mpr hname
        have hafter : expect ":" (dropSpace colon) = some null :=
          (expect_dropSpace_eq_some_iff (by decide)).mpr hcolon
        have hvalue : expect "null" (dropSpace null) = some brace :=
          (expect_dropSpace_eq_some_iff (by decide)).mpr hnull
        have hclose : expect "\x7d" (dropSpace brace) = some rest :=
          (expect_dropSpace_eq_some_iff (by decide)).mpr hbrace
        simp [hinner.dropSpace_eq (c := '\x7b') (by decide), hread, hknown, hafter, hvalue, hclose]

/-- The reader of the values of a field. -/
def Field.read? : (field : Field) → List Char → Option (field.Value × List Char)
  | indexPath | resultPath | analyzer => stringValue?
  | lowercase | analyzeQueryTerms => boolValue?
  | resultPaths => styleValue?

theorem Field.read?_eq_some_iff {field : Field} {value : field.Value} :
    field.read? chars = some (value, rest) ↔ field.IsValue value chars rest := by
  cases field with
  | indexPath | resultPath | analyzer => exact stringValue?_eq_some_iff
  | lowercase | analyzeQueryTerms => exact boolValue?_eq_some_iff
  | resultPaths => exact styleValue?_eq_some_iff

/-- What is read for a field is set. -/
theorem readField_eq (config : Config) (field : Field) (chars : List Char) :
    config.readField field chars =
      (field.read? chars).map fun (value, rest) => (config.set field value, rest) := by
  cases field with
  | indexPath | resultPath | analyzer =>
      rw [readField, Field.read?]
      cases stringValue? chars <;> rfl
  | lowercase | analyzeQueryTerms =>
      rw [readField, Field.read?]
      cases boolValue? chars <;> rfl
  | resultPaths =>
      rw [readField, Field.read?]
      cases styleValue? chars <;> rfl

/-- A value of a field sets the field, and nothing else does. -/
theorem readField_eq_some_iff {config result : Config} {field : Field} :
    config.readField field chars = some (result, rest) ↔
      ∃ value, field.IsValue value chars rest ∧ result = config.set field value := by
  simp only [readField_eq, Option.map_eq_some_iff, Prod.exists, Prod.mk.injEq,
    Field.read?_eq_some_iff]
  constructor
  · rintro ⟨value, after, hvalue, rfl, rfl⟩
    exact ⟨value, hvalue, rfl⟩
  · rintro ⟨value, hvalue, rfl⟩
    exact ⟨value, rest, hvalue, rfl, rfl⟩

/-- The values of a field are JSON values. -/
theorem Field.IsValue.begins {field : Field} {value : field.Value}
    (hvalue : field.IsValue value chars rest) : Begins .value chars rest := by
  cases field with
  | indexPath | resultPath | analyzer => exact IsText.begins hvalue
  | lowercase | analyzeQueryTerms => exact .truth value hvalue
  | resultPaths =>
      cases hvalue with
      | name hname => exact hname.begins
      | @object inner colon null brace hinner hname hcolon hnull hbrace =>
          exact .object hinner
            (Named.begins_members ⟨colon, null, hname, hcolon, .null hnull⟩ hbrace)

end Values

/-! ## Members -/

/-- What a member of the object is about. -/
inductive Entry where
  /-- A field is set. -/
  | setting (field : Field) (value : field.Value)
  /-- The name is that of no field. -/
  | other (name : String)

namespace Entry

/-- The field that a member sets, if it sets one. -/
def field? : Entry → Option Field
  | setting field _ => some field
  | other _ => none

/-- What a member makes of a configuration. -/
def applyTo (config : Config) : Entry → Config
  | setting field value => config.set field value
  | other _ => config

/-- A text begins with a member: a field with one of its values, or another name with any
value. -/
def IsMember : Entry → List Char → List Char → Prop
  | setting field value, chars, rest => Named (field.IsValue value) field.name chars rest
  | other name, chars, rest =>
    Field.ofName? name = none ∧ Named (Begins .value) name chars rest

variable {chars rest : List Char}

/-- A member takes at least one character. -/
theorem IsMember.length_lt {entry : Entry} (hmember : entry.IsMember chars rest) :
    rest.length < chars.length := by
  cases entry with
  | setting field value =>
      have hnamed : Named (Begins .value) field.name chars rest :=
        hmember.mono fun _ _ hvalue => hvalue.begins
      exact hnamed.length_lt
  | other name => exact hmember.2.length_lt

end Entry

section Members

variable {chars rest : List Char}

/-- A name and its colon are read up to the value. -/
theorem readMembers_succ {form : List Char → List Char → Prop} {name : String}
    (hnamed : Named form name chars rest) (count : Nat) (config : Config) (seen : List Field) :
    ∃ value, form value rest ∧
      readMembers (count + 1) config seen chars =
        (config.readMember seen name value).bind fun (config, seen, rest) =>
          match dropSpace rest with
          | '\x7d' :: rest => some (config, rest)
          | ',' :: rest => readMembers count config seen rest
          | _ => none := by
  obtain ⟨colon, value, hname, hcolon, hvalue⟩ := hnamed
  have hafter : expect ":" (dropSpace colon) = some value :=
    (expect_dropSpace_eq_some_iff (by decide)).mpr hcolon
  refine ⟨value, hvalue, ?_⟩
  rw [readMembers, stringValue?_eq_some_iff.mpr hname, Option.bind_eq_bind, Option.bind_some]
  dsimp only
  rw [hafter]
  rfl

/-- A member is read unless it sets a field again. -/
theorem readMembers_entry {entry : Entry} (hmember : entry.IsMember chars rest) (count : Nat)
    (config : Config) {seen : List Field} (hseen : ∀ field ∈ entry.field?, field ∉ seen) :
    readMembers (count + 1) config seen chars =
      match dropSpace rest with
      | '\x7d' :: rest => some (entry.applyTo config, rest)
      | ',' :: rest =>
        readMembers count (entry.applyTo config) (entry.field?.toList ++ seen) rest
      | _ => none := by
  cases entry with
  | setting field value =>
      obtain ⟨start, hvalue, hread⟩ := readMembers_succ hmember count config seen
      have hname : Field.ofName? field.name = some field := Field.ofName?_eq_some_iff.mpr rfl
      have hset : config.readField field start = some (config.set field value, rest) :=
        readField_eq_some_iff.mpr ⟨value, hvalue, rfl⟩
      have hnew : field ∉ seen := hseen field rfl
      have hstep : config.readMember seen field.name start =
          some (config.set field value, field :: seen, rest) := by
        simp [readMember, hname, hnew, hset]
      rw [hread, hstep]
      rfl
  | other name =>
      obtain ⟨hname, hmember⟩ := hmember
      obtain ⟨start, hvalue, hread⟩ := readMembers_succ hmember count config seen
      have hstep : config.readMember seen name start = some (config, seen, rest) := by
        simp [readMember, hname, hvalue.skipValue]
      rw [hread, hstep]
      rfl

theorem filterMap_cons_append {α : Type} (field? : α → Option Field) (item : α)
    (items : List α) :
    (item :: items).filterMap field? = (field? item).toList ++ items.filterMap field? := by
  rw [List.filterMap_eq_flatMap_toList, List.flatMap_cons, ← List.filterMap_eq_flatMap_toList]

/-- The members of an object set their fields, each at most once. -/
theorem readMembers_of_members {entries : List Entry}
    (hmembers : Members Entry.IsMember entries chars rest) {count : Nat}
    (hcount : entries.length ≤ count) {config : Config} {seen : List Field}
    (hnodup : (entries.filterMap Entry.field?).Nodup)
    (hseen : ∀ field ∈ entries.filterMap Entry.field?, field ∉ seen) :
    readMembers count config seen chars = some (entries.foldl Entry.applyTo config, rest) := by
  -- The fields of the members to come stay apart from those that were seen.
  induction hmembers generalizing count config seen with
  | @last entry chars others rest hmember hclose =>
      obtain ⟨count, rfl⟩ := Nat.exists_eq_add_of_le' hcount
      rw [filterMap_cons_append, List.forall_mem_append] at hseen
      rw [List.length_singleton, readMembers_entry hmember count config (by simpa using hseen.1),
        hclose.dropSpace_eq (by decide)]
      rfl
  | @next entry entries chars others next rest hmember hcomma _ ih =>
      obtain ⟨count, rfl⟩ := Nat.exists_eq_add_of_le' (Nat.one_le_of_lt hcount)
      rw [filterMap_cons_append, List.forall_mem_append] at hseen
      rw [filterMap_cons_append, List.nodup_append'] at hnodup
      obtain ⟨-, hnodup, hdisjoint⟩ := hnodup
      rw [readMembers_entry hmember count config (by simpa using hseen.1),
        hcomma.dropSpace_eq (by decide)]
      refine ih (Nat.le_of_succ_le_succ hcount) hnodup fun field hfield => ?_
      rw [List.mem_append, not_or]
      exact ⟨fun hfirst => hdisjoint hfirst hfield, hseen.2 field hfield⟩

theorem mem_fields_of_mem {entries : List Entry} {field : Field} {value : field.Value}
    (hmem : .setting field value ∈ entries) : field ∈ entries.filterMap Entry.field? :=
  List.mem_filterMap.mpr ⟨_, hmem, rfl⟩

/-- The members of an object override a configuration. -/
theorem overrides_foldl {entries : List Entry} (hnodup : (entries.filterMap Entry.field?).Nodup)
    (base : Config) :
    (entries.foldl Entry.applyTo base).Overrides base
      fun field value => .setting field value ∈ entries := by
  induction entries generalizing base with
  | nil => exact ⟨fun _ _ hmem => absurd hmem List.not_mem_nil, fun _ _ => rfl⟩
  | cons entry entries ih =>
      rw [filterMap_cons_append, List.nodup_append'] at hnodup
      obtain ⟨-, hnodup, hdisjoint⟩ := hnodup
      obtain ⟨hset, hkept⟩ := ih hnodup (entry.applyTo base)
      refine ⟨fun field value hmem => ?_, fun field hunset => ?_⟩
      · rcases List.mem_cons.mp hmem with rfl | hmem
        · rw [List.foldl_cons, hkept field fun _ hlater =>
            hdisjoint (List.mem_singleton_self field) (mem_fields_of_mem hlater)]
          exact get_set base field value
        · exact hset field value hmem
      · rw [List.foldl_cons, hkept field fun value hmem =>
          hunset value (List.mem_cons_of_mem _ hmem)]
        cases entry with
        | setting other value =>
            refine get_set_of_ne base value ?_
            rintro rfl
            exact hunset value List.mem_cons_self
        | other name => rfl

/-- A member that is read ends where its value does, and its field was not set before. -/
theorem eq_of_readMember {config result : Config} {seen seen' : List Field} {name : String}
    {after : List Char} (hvalue : Begins .value chars rest)
    (hread : config.readMember seen name chars = some (result, seen', after)) :
    after = rest ∧ (∀ field ∈ Field.ofName? name, field ∉ seen) ∧
      seen' = (Field.ofName? name).toList ++ seen := by
  rw [readMember] at hread
  cases hname : Field.ofName? name with
  | none =>
      simp only [hname, hvalue.skipValue, Option.bind_eq_bind, Option.bind_some, Option.pure_def,
        Option.some.injEq, Prod.mk.injEq] at hread
      obtain ⟨-, rfl, rfl⟩ := hread
      simp
  | some field =>
      simp only [hname, Option.ite_none_left_eq_some, Option.bind_eq_bind,
        Option.bind_eq_some_iff, Prod.exists, readField_eq_some_iff, Option.pure_def,
        Option.some.injEq, Prod.mk.injEq] at hread
      obtain ⟨hnew, _, _, ⟨value, hfield, rfl⟩, rfl, rfl, rfl⟩ := hread
      refine ⟨hfield.begins.unique hvalue, ?_, rfl⟩
      simpa using hnew

/-- Members that are read set no field again. -/
theorem nodup_of_readMembers {names : List String}
    (hmembers : Members (Named (Begins .value)) names chars rest) {count : Nat} {config : Config}
    {seen : List Field} {result : Config × List Char}
    (hread : readMembers count config seen chars = some result) :
    (names.filterMap Field.ofName?).Nodup ∧
      ∀ field ∈ names.filterMap Field.ofName?, field ∉ seen := by
  induction hmembers generalizing count config seen with
  | @last name chars others rest hmember hclose =>
      obtain _ | count := count
      · cases hread
      obtain ⟨start, hvalue, hstep⟩ := readMembers_succ hmember count config seen
      rw [hstep, Option.bind_eq_some_iff] at hread
      obtain ⟨⟨config, seen', after⟩, hmember, -⟩ := hread
      obtain ⟨-, hnew, -⟩ := eq_of_readMember hvalue hmember
      rw [filterMap_cons_append, List.filterMap_nil, List.append_nil]
      exact ⟨by cases Field.ofName? name <;> simp, by simpa using hnew⟩
  | @next name names chars others next rest hmember hcomma _ ih =>
      obtain _ | count := count
      · cases hread
      obtain ⟨start, hvalue, hstep⟩ := readMembers_succ hmember count config seen
      rw [hstep, Option.bind_eq_some_iff] at hread
      obtain ⟨⟨config, seen', after⟩, hmember, hread⟩ := hread
      obtain ⟨rfl, hnew, rfl⟩ := eq_of_readMember hvalue hmember
      simp only [hcomma.dropSpace_eq (c := ',') (by decide)] at hread
      obtain ⟨hnodup, hothers⟩ := ih hread
      simp only [List.mem_append, not_or, Option.mem_toList] at hothers
      rw [filterMap_cons_append, List.nodup_append']
      refine ⟨⟨by cases Field.ofName? name <;> simp, hnodup, fun field hfirst hlater => ?_⟩, ?_⟩
      · exact (hothers field hlater).1 (Option.mem_toList.mp hfirst)
      · rw [List.forall_mem_append]
        exact ⟨by simpa using hnew, fun field hfield => (hothers field hfield).2⟩

end Members

/-! ## Objects -/

section Objects

variable {text : String}

/-- An object with a first key is read member by member. -/
theorem readFrom_of_key {inner key : List Char} (hopen : Spaced text.toList ('\x7b' :: inner))
    (hkey : dropSpace inner = '"' :: key) :
    readFrom text.toList = readMembers inner.length {} [] inner := by
  rw [readFrom, hopen.dropSpace_eq (by decide)]
  simp [hkey]

theorem exists_key {entries : List Entry} {inner rest : List Char}
    (hmembers : Members Entry.IsMember entries inner rest) :
    ∃ key, dropSpace inner = '"' :: key := by
  obtain ⟨entry, others, hfirst⟩ := hmembers.exists_first
  cases entry with
  | setting field value => exact Named.exists_quote hfirst
  | other name => exact hfirst.2.exists_quote

/-- An object in which no field is set twice is read: its members set their fields, and the
other fields have their defaults. -/
theorem read_of_isObject {entries : List Entry} (hobject : IsObject Entry.IsMember entries text)
    (hnodup : (entries.filterMap Entry.field?).Nodup) :
    read text = .ok (entries.foldl Entry.applyTo {}) := by
  obtain ⟨inner, rest, hopen, hend, ⟨rfl, hclose⟩ | hmembers⟩ := hobject
  · have hread : readFrom text.toList = some ({}, rest) := by
      rw [readFrom, hopen.dropSpace_eq (by decide)]
      simp only [hclose.dropSpace_eq (c := '\x7d') (by decide)]
    simp [read, hread, dropSpace_eq_nil_iff.mpr hend]
  · obtain ⟨key, hkey⟩ := exists_key hmembers
    have hlength := hmembers.length_le fun _ _ _ => Entry.IsMember.length_lt
    have hread : readMembers inner.length {} [] inner =
        some (entries.foldl Entry.applyTo {}, rest) :=
      readMembers_of_members hmembers hlength hnodup (by simp)
    rw [read, readFrom_of_key hopen hkey, hread]
    simp [dropSpace_eq_nil_iff.mpr hend]

/-- An object in which the name of a field comes again is not read, whatever the values are. -/
theorem read_of_repeated {names : List String}
    (hobject : IsObject (Named (Begins .value)) names text) {field : Field}
    (hrepeated : 1 < names.count field.name) :
    read text = .error .malformedConfig := by
  obtain ⟨inner, rest, hopen, -, ⟨rfl, -⟩ | hmembers⟩ := hobject
  · simp at hrepeated
  · obtain ⟨name, others, hfirst⟩ := hmembers.exists_first
    obtain ⟨key, hkey⟩ := hfirst.exists_quote
    rw [read, readFrom_of_key hopen hkey]
    cases hread : readMembers inner.length {} [] inner with
    | none => rfl
    | some result =>
        obtain ⟨hnodup, -⟩ := nodup_of_readMembers hmembers hread
        have honce := List.nodup_iff_count_le_one.mp hnodup field
        have hcount : (names.filterMap Field.ofName?).count field = names.count field.name := by
          rw [List.count_filterMap, List.count]
          refine List.countP_congr fun name _ => ?_
          simp [Field.ofName?_eq_some_iff]
        omega

end Objects

/-! ## Written configurations -/

theorem isValue_renderField (config : Config) (field : Field) (rest : List Char) :
    field.IsValue (config.get field) ((config.renderField field).toList ++ rest) rest := by
  cases field with
  | indexPath | resultPath | analyzer => exact isText_quote _ rest
  | lowercase | analyzeQueryTerms => exact .refl _
  | resultPaths => exact .name (isText_quote _ rest)

/-- A written configuration is an object with all fields in order. -/
theorem isObject_render (config : Config) :
    IsObject Entry.IsMember (Field.all.map fun field => .setting field (config.get field))
      config.render := by
  have hmember (field : Field) (rest : List Char) :
      Entry.IsMember (.setting field (config.get field))
        ((quote field.name ++ ":" ++ config.renderField field).toList ++ rest) rest := by
    have hnamed := named_quote (isValue_renderField config field rest) field.name
    simpa [Entry.IsMember] using hnamed
  have hmembers := members_intercalate hmember (show Field.all ≠ [] by decide) []
  refine ⟨_, [], ?_, .refl [], .inr hmembers⟩
  have hrender : config.render.toList = '\x7b' ::
      ((",".intercalate (Field.all.map fun field =>
        quote field.name ++ ":" ++ config.renderField field)).toList ++ ['\x7d']) := by
    simp [render]
  rw [hrender]
  exact .refl _

/-- A written configuration is read back. -/
theorem read_render (config : Config) : read config.render = .ok config := by
  have hfields : (Field.all.map fun field =>
      Entry.setting field (config.get field)).filterMap Entry.field? = Field.all := rfl
  have hnodup : (Field.all.map fun field =>
      Entry.setting field (config.get field)).filterMap Entry.field? |>.Nodup := by
    rw [hfields]
    decide
  rw [read_of_isObject (isObject_render config) hnodup]
  refine congrArg _ (eq_of_get_eq fun field => ?_)
  refine (overrides_foldl hnodup {}).set field (config.get field) ?_
  exact List.mem_map_of_mem (by cases field <;> decide)

/-! ## Files -/

/-- The configuration of a file is what its text denotes. -/
theorem run_load_of_reads {tree : FileTree} {path text : String} (hreads : tree.Reads path text) :
    (load (m := StateM FileTree) path).run.run tree = (read text, tree) := by
  rw [load, run_bind_of_ok (run_adapt_readText hreads _), run_ofExcept]

end BooleanRetrieval.Config
