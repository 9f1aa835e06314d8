/-
# What a command asks for

The words of a command give each of its parameters at most once, in any order and in either
spelling of an option, and the two plain words come in order.  Such words ask for one job.  The
job runs on the configuration of its file, or on the default one, where the options that are
given take the place of what the file says.
-/

import BooleanRetrieval.CommandLine
import BooleanRetrieval.Proofs.Config
import BooleanRetrieval.Proofs.Text.Split

namespace BooleanRetrieval.CommandLine

open Json

/-! ## The form of a command -/

/-- Whether a value comes as a plain word. -/
def Parameter.isPlain : Parameter → Bool
  | manifest | queryFile => true
  | config | indexOut | resultOut | analyzer => false

/-- A word that is not taken for an option: it has no dash in front, or is a dash. -/
def IsPlain (word : String) : Prop :=
  word = "-" ∨ word.toList.head? ≠ some '-'

/-- A part of a command. -/
inductive Item where
  /-- A parameter has a value. -/
  | given (parameter : Parameter) (value : String)
  /-- Matches are listed by file name. -/
  | fileNames
  deriving DecidableEq

namespace Item

/-- The parameter of a part, if it has one. -/
def parameter? : Item → Option Parameter
  | given parameter _ => some parameter
  | fileNames => none

/-- The parameter of a part with its value. -/
def assignment? : Item → Option (Parameter × String)
  | given parameter value => some (parameter, value)
  | fileNames => none

/-- The parameter of a part that is a plain word. -/
def plain? (item : Item) : Option Parameter :=
  item.parameter?.filter Parameter.isPlain

theorem plain?_given_of_isPlain {parameter : Parameter} {value : String}
    (hkind : parameter.isPlain) : (given parameter value).plain? = some parameter := by
  simp [plain?, parameter?, hkind]

theorem plain?_given_of_not_isPlain {parameter : Parameter} {value : String}
    (hkind : parameter.isPlain = false) : (given parameter value).plain? = none := by
  simp [plain?, parameter?, hkind]

/-- The words for a part of a command. -/
inductive Says : Item → List String → Prop where
  | plain {parameter : Parameter} {value : String} : parameter.isPlain → IsPlain value →
      Says (given parameter value) [value]
  | separate {name value : String} {parameter : Parameter} : option? name = some parameter →
      IsPlain value → Says (given parameter value) ["--" ++ name, value]
  | joined {name value : String} {parameter : Parameter} : option? name = some parameter →
      Says (given parameter value) ["--" ++ name ++ "=" ++ value]
  | fileNames : Says fileNames ["--file-names"]

end Item

/-- The words for the parts of a command, one after the other. -/
inductive Said : List Item → List String → Prop where
  | nil : Said [] []
  | cons {item : Item} {items : List Item} {own words : List String} : item.Says own →
      Said items words → Said (item :: items) (own ++ words)

/-- The value that a job has for a parameter. -/
def Job.value? (job : Job) : Parameter → Option String
  | .manifest => some job.manifest
  | .queryFile => some job.queryFile
  | .config => job.config
  | .indexOut => job.indexOut
  | .resultOut => job.resultOut
  | .analyzer => job.analyzer

/-- The parts of a command for a job. -/
structure Job.Arranges (job : Job) (items : List Item) : Prop where
  given : ∀ parameter value,
    .given parameter value ∈ items ↔ job.value? parameter = some value
  fileNames : .fileNames ∈ items ↔ job.fileNames
  /-- No part comes twice. -/
  once : (items.map Item.parameter?).Nodup
  /-- The plain words come in order. -/
  inOrder : items.filterMap Item.plain? = [.manifest, .queryFile]
  paths : ∀ parameter value, .given parameter value ∈ items → parameter.isPath → value ≠ ""

/-! ## Reading the words -/

namespace Reading

/-- Parts of a command have been read and settled, and others are left. -/
def after (done left : List Item) : Reading where
  values := (done.filterMap Item.assignment?).reverse
  fileNames := decide (.fileNames ∈ done)
  unsettled := none
  expected := left.filterMap Item.plain?

/-- Only plain words are expected. -/
theorem after_cons {item : Item} (hplain : item.plain? = none) (done left : List Item) :
    after done (item :: left) = after done left := by
  rw [after, List.filterMap_cons_none hplain, after]

section Steps

variable {reading : Reading} {done left : List Item} {parameter : Parameter} {value : String}

/-- A parameter without a value so far gets one. -/
theorem assign_of_new (hnew : ∀ assignment ∈ reading.values, assignment.1 ≠ parameter)
    (hpath : parameter.isPath → value ≠ "") :
    reading.assign parameter value =
      .ok { reading with values := (parameter, value) :: reading.values } := by
  have hunassigned : reading.values.any (·.1 = parameter) = false := by
    simpa [List.any_eq_false] using hnew
  have hnamed : (parameter.isPath && value.isEmpty) = false := by
    cases hkind : parameter.isPath with
    | false => rfl
    | true => simpa using hpath hkind
  simp [assign, hunassigned, hnamed]

/-- The next part with a parameter that is assigned. -/
theorem assign_after (hnew : some parameter ∉ done.map Item.parameter?)
    (hpath : parameter.isPath → value ≠ "") :
    (after done left).assign parameter value =
      .ok (after (done ++ [.given parameter value]) left) := by
  have hunassigned : ∀ assignment ∈ (after done left).values, assignment.1 ≠ parameter := by
    intro assignment hmem heq
    obtain ⟨item, hitem, hassignment⟩ := List.mem_filterMap.mp (List.mem_reverse.mp hmem)
    refine hnew (List.mem_map.mpr ⟨item, hitem, ?_⟩)
    cases item with
    | given =>
        cases hassignment
        exact congrArg some heq
    | fileNames => cases hassignment
  rw [assign_of_new hunassigned hpath]
  simp [after, Item.assignment?]

/-- What is settled has been understood, and the same plain words are left. -/
theorem of_settle_eq_ok {settled : Reading} (hsettle : reading.settle = .ok settled) :
    reading.expected = settled.expected ∧
      ∀ parameter, reading.unsettled ≠ some (parameter, none) := by
  rw [settle] at hsettle
  split at hsettle
  · next hunsettled =>
      cases hsettle
      simp [hunsettled]
  · cases hsettle
  · next hunsettled =>
      simp only [assign] at hsettle
      split at hsettle
      · cases hsettle
      · split at hsettle
        · cases hsettle
        · cases hsettle
          simp [hunsettled]

theorem readWord_of_isPlain (hplain : IsPlain value) :
    reading.readWord value =
      match reading.unsettled with
      | some (parameter, none) => .ok { reading with unsettled := some (parameter, some value) }
      | _ => reading.readPlain value := by
  rcases hplain with rfl | hplain
  · rfl
  · rw [readWord]
    cases hvalue : value.toList with
    | nil => rfl
    | cons c rest =>
        have hdash : c ≠ '-' := by simpa [hvalue] using hplain
        split
        · next heq => exact absurd (List.cons.inj heq).1 hdash
        · next heq => exact absurd (List.cons.inj heq).1 hdash
        · rfl

theorem ne_of_isPlain (hplain : IsPlain value) : value ≠ "--" := by
  rintro rfl
  rcases hplain with hdash | hplain
  · exact absurd hdash (by decide)
  · exact hplain (by decide)

theorem readWord_fileNames (reading : Reading) :
    reading.readWord "--file-names" = reading.readFlag .fileNames := by
  rfl

theorem readWord_separate {name : String} (hname : option? name = some parameter) :
    reading.readWord ("--" ++ name) = do
      return { ← reading.settle with unsettled := some (parameter, none) } := by
  unfold option? at hname
  split at hname
  all_goals cases hname
  all_goals rfl

theorem readWord_joined {name : String} (hname : option? name = some parameter) :
    reading.readWord ("--" ++ name ++ "=" ++ value) =
      reading.settle >>= (·.assign parameter value) := by
  unfold option? at hname
  split at hname
  all_goals cases hname
  all_goals
    rw [readWord]
    simp [Text.splitAtFirst?, readLong, option?]

/-- An option has a name, without an equals sign, and is no plain word. -/
theorem ne_of_option? {name : String} (hname : option? name = some parameter) :
    "--" ++ name ≠ "--" ∧ parameter.isPlain = false := by
  unfold option? at hname
  split at hname
  all_goals cases hname
  all_goals decide

theorem joined_ne_dashes (name value : String) : "--" ++ name ++ "=" ++ value ≠ "--" := by
  intro heq
  have hlength := congrArg String.length heq
  have hequals : "=".length = 1 := rfl
  simp only [String.length_append] at hlength
  omega

/-- A value that has come is settled with the next word. -/
theorem settle_unsettled (hnew : some parameter ∉ done.map Item.parameter?)
    (hpath : parameter.isPath → value ≠ "") :
    { after done left with unsettled := some (parameter, some value) : Reading }.settle =
      .ok (after (done ++ [.given parameter value]) left) :=
  assign_after hnew hpath

/-- The words for a part of a command are read, and only its value may have to be settled. -/
theorem exists_readWords_append {item : Item} {own : List String} (hown : item.Says own)
    (hnew : item.parameter? ∉ done.map Item.parameter?)
    (hpath : ∀ parameter value, item = .given parameter value → parameter.isPath → value ≠ "")
    (hsettle : reading.settle = .ok (after done (item :: left))) :
    ∃ next : Reading, next.settle = .ok (after (done ++ [item]) left) ∧
      ∀ words, reading.readWords (own ++ words) = next.readWords words := by
  -- A value in a word of its own is settled by the next word only, so readings are compared by
  -- what they settle to.
  cases hown with
  | @plain parameter value hkind hplain =>
      obtain ⟨hexpected, hunsettled⟩ := of_settle_eq_ok hsettle
      have hfirst : reading.expected = parameter :: left.filterMap Item.plain? := by
        rw [hexpected, after, List.filterMap_cons_some (Item.plain?_given_of_isPlain hkind)]
      have hread : reading.readWord value =
          .ok { after done left with unsettled := some (parameter, some value) } := by
        rw [readWord_of_isPlain hplain]
        split
        · next heq => exact absurd heq (hunsettled _)
        · rw [readPlain, hfirst, hsettle]
          rfl
      refine ⟨_, settle_unsettled hnew (hpath _ _ rfl), fun words => ?_⟩
      rw [List.singleton_append, readWords, if_neg (ne_of_isPlain hplain), hread]
      rfl
  | @separate name value parameter hname hplain =>
      obtain ⟨hfull, hkind⟩ := ne_of_option? hname
      have hleft : after done (.given parameter value :: left) = after done left :=
        after_cons (Item.plain?_given_of_not_isPlain hkind) done left
      have hoption : reading.readWord ("--" ++ name) =
          .ok { after done left with unsettled := some (parameter, none) } := by
        rw [readWord_separate hname, hsettle, hleft]
        rfl
      have hread : { after done left with unsettled := some (parameter, none) }.readWord value =
          .ok { after done left with unsettled := some (parameter, some value) } :=
        readWord_of_isPlain hplain
      refine ⟨_, settle_unsettled hnew (hpath _ _ rfl), fun words => ?_⟩
      rw [List.cons_append, List.singleton_append, readWords, if_neg hfull, hoption]
      show readWords _ _ = _
      rw [readWords, if_neg (ne_of_isPlain hplain), hread]
      rfl
  | @joined name value parameter hname =>
      obtain ⟨-, hkind⟩ := ne_of_option? hname
      have hleft : after done (.given parameter value :: left) = after done left :=
        after_cons (Item.plain?_given_of_not_isPlain hkind) done left
      have hread : reading.readWord ("--" ++ name ++ "=" ++ value) =
          .ok (after (done ++ [.given parameter value]) left) := by
        rw [readWord_joined hname, hsettle, hleft]
        exact assign_after hnew (hpath _ _ rfl)
      refine ⟨after (done ++ [.given parameter value]) left, rfl, fun words => ?_⟩
      rw [List.singleton_append, readWords, if_neg (joined_ne_dashes name value), hread]
      rfl
  | fileNames =>
      have hfresh : (after done left).fileNames = false :=
        decide_eq_false fun hmem => hnew (List.mem_map_of_mem hmem)
      have hread : reading.readWord "--file-names" =
          .ok (after (done ++ [.fileNames]) left) := by
        rw [readWord_fileNames, readFlag, hsettle, after_cons rfl]
        show (if (after done left).fileNames then _ else _) = _
        rw [hfresh]
        simp [after, Item.assignment?]
      refine ⟨after (done ++ [.fileNames]) left, rfl, fun words => ?_⟩
      rw [List.singleton_append, readWords, if_neg (by decide), hread]
      rfl

/-- All parts of a command are read, one after the other. -/
theorem readWords_of_said {items : List Item} {words : List String} (hsaid : Said items words)
    (honce : ((done ++ items).map Item.parameter?).Nodup)
    (hpaths : ∀ parameter value, .given parameter value ∈ items → parameter.isPath → value ≠ "")
    (hsettle : reading.settle = .ok (after done items)) :
    reading.readWords words = .ok (after (done ++ items) []) := by
  induction hsaid generalizing done reading with
  | nil => simpa [readWords] using hsettle
  | @cons item items own words hown _ ih =>
      have hnew : item.parameter? ∉ done.map Item.parameter? := by
        rw [List.map_append, List.map_cons] at honce
        exact fun hmem => (List.nodup_append'.mp honce).2.2 hmem List.mem_cons_self
      obtain ⟨next, hnext, hread⟩ := exists_readWords_append hown hnew
        (fun parameter value heq => hpaths parameter value (heq ▸ List.mem_cons_self)) hsettle
      rw [hread, ih (by simpa using honce)
        (fun parameter value hmem => hpaths parameter value (List.mem_cons_of_mem _ hmem)) hnext,
        List.append_assoc]
      rfl

end Steps

/-- The values that are settled in the end are those of the job. -/
theorem value?_after {job : Job} {items : List Item} (harranges : job.Arranges items)
    (parameter : Parameter) : (after items []).value? parameter = job.value? parameter := by
  have hmem (value : String) :
      (parameter, value) ∈ (after items []).values ↔ job.value? parameter = some value := by
    rw [← harranges.given, after, List.mem_reverse, List.mem_filterMap]
    constructor
    · rintro ⟨item, hitem, hassignment⟩
      cases item with
      | given =>
          cases hassignment
          exact hitem
      | fileNames => cases hassignment
    · exact fun hitem => ⟨_, hitem, rfl⟩
  cases hlookup : (after items []).value? parameter with
  | some value =>
      obtain ⟨_, _, hvalues, -⟩ := List.lookup_eq_some_iff.mp hlookup
      exact ((hmem value).mp (hvalues ▸ List.mem_append_right _ List.mem_cons_self)).symm
  | none =>
      cases hvalue : job.value? parameter with
      | none => rfl
      | some value =>
          have hother := List.lookup_eq_none_iff.mp hlookup _ ((hmem value).mpr hvalue)
          simp at hother

end Reading

/-- Words that say the parts of a command for a job are read as the job. -/
theorem parse_of_said {job : Job} {items : List Item} {words : List String}
    (harranges : job.Arranges items) (hsaid : Said items words) : parse words = .ok job := by
  have hstart : Reading.start.settle = .ok (.after [] items) := by
    simp [Reading.start, Reading.settle, Reading.after, harranges.inOrder]
  have hread := Reading.readWords_of_said hsaid (by simpa using harranges.once)
    harranges.paths hstart
  have hflag : (Reading.after items []).fileNames = job.fileNames :=
    Bool.eq_iff_iff.mpr (by simpa [Reading.after] using harranges.fileNames)
  simp only [List.nil_append] at hread
  rw [parse, hread]
  simp only [bind, Except.bind, Reading.value?_after harranges, Job.value?, hflag]
  rfl

/-! ## Carrying out the job -/

namespace Job

/-- The options of a job that set a field, and to which value. -/
def Sets (job : Job) : (field : Config.Field) → field.Value → Prop
  | .indexPath, path => job.indexOut = some path
  | .resultPath, path => job.resultOut = some path
  | .analyzer, name => job.analyzer = some name
  | .resultPaths, style => job.fileNames ∧ style = .fileName
  | .lowercase, _ | .analyzeQueryTerms, _ => False

/-- The configuration that a job departs from: that of its file, or the default one. -/
def DepartsFrom (job : Job) (tree : FileTree) (base : Config) : Prop :=
  match job.config with
  | some path => (Config.load (m := StateM FileTree) path).run.run tree = (.ok base, tree)
  | none => base = {}

/-- How a command ends whose job ends with a result. -/
def outcome (job : Job) : Except Error DocSet → Outcome
  | .ok _ => .done
  | .error error => .failed (Text.showControls (describe s!"querying corpus {job.manifest}" error))

/-- The options that are given take the place of what a configuration says. -/
theorem overrides_override (job : Job) (base : Config) :
    (job.override base).Overrides base job.Sets := by
  constructor
  · intro field value hsets
    cases field with
    | indexPath | resultPath | analyzer =>
        rw [Sets] at hsets
        simp only [override, Config.get, hsets]
        rfl
    | resultPaths =>
        obtain ⟨hflag, rfl⟩ := hsets
        simp only [override, Config.get, hflag]
        rfl
    | lowercase | analyzeQueryTerms => cases hsets
  · intro field hunset
    cases field with
    | indexPath | resultPath | analyzer =>
        have hmissing := Option.eq_none_iff_forall_ne_some.mpr hunset
        simp only [override, Config.get, hmissing]
        rfl
    | resultPaths =>
        have hmissing : job.fileNames = false :=
          Bool.eq_false_iff.mpr fun hflag => hunset .fileName ⟨hflag, rfl⟩
        simp only [override, Config.get, hmissing]
        rfl
    | lowercase | analyzeQueryTerms => rfl

variable {job : Job} {tree : FileTree} {base : Config}

theorem run_baseConfig (hdeparts : job.DepartsFrom tree base) :
    (job.baseConfig (m := StateM FileTree)).run.run tree = (.ok base, tree) := by
  rw [DepartsFrom] at hdeparts
  rw [baseConfig]
  cases hconfig : job.config with
  | some path => simpa only [hconfig] using hdeparts
  | none =>
      simp only [hconfig] at hdeparts
      subst hdeparts
      rfl

/-- A job is the batch job with the configuration that its options make. -/
theorem run_perform (hdeparts : job.DepartsFrom tree base) {result : Except Error DocSet}
    {after : FileTree} (hrun : (Database.run (m := StateM FileTree) job.manifest job.queryFile
      (job.override base)).run.run tree = (result, after)) :
    (job.perform (m := StateM FileTree)).run.run tree =
      (result.mapError (describe s!"querying corpus {job.manifest}"), after) := by
  rw [perform, run_bind_of_ok (run_adapt (run_baseConfig hdeparts) _)]
  exact run_adapt hrun _

end Job

/-- A command ends as its job does. -/
theorem run_of_parse {job : Job} {tree after : FileTree} {base : Config} {words : List String}
    {result : Except Error DocSet} (hparse : parse words = .ok job)
    (hdeparts : job.DepartsFrom tree base)
    (hrun : (Database.run (m := StateM FileTree) job.manifest job.queryFile
      (job.override base)).run.run tree = (result, after)) :
    (run (m := StateM FileTree) words).run tree = (job.outcome result, after) := by
  have hperform := Job.run_perform hdeparts hrun
  rw [run, hparse]
  dsimp only
  rw [StateT.run_bind, hperform]
  cases result with
  | ok hits => rfl
  | error error => rfl

/-- The configuration of a command.  A written configuration is read back.  An object that has
each field at most once, with a value of its kind and among members of other names, sets these
fields and leaves the others at their defaults; one that has a field again is not read.  The
options of a command, in any arrangement of its words, take the place of what the file says, and
the batch job runs on what they make. -/
theorem effective_config :
    (∀ (tree : FileTree) (path : String) (config : Config), tree.Reads path config.render →
      (Config.load (m := StateM FileTree) path).run.run tree = (.ok config, tree)) ∧
    (∀ (tree : FileTree) (path text : String) (entries : List Config.Entry),
      tree.Reads path text → IsObject Config.Entry.IsMember entries text →
      (entries.filterMap Config.Entry.field?).Nodup →
      ∃ config : Config,
        (Config.load (m := StateM FileTree) path).run.run tree = (.ok config, tree) ∧
        config.Overrides {} fun field value => .setting field value ∈ entries) ∧
    (∀ (tree : FileTree) (path text : String) (names : List String) (field : Config.Field),
      tree.Reads path text → IsObject (Named (Begins .value)) names text →
      1 < names.count field.name →
      ∃ error : Error, error.kind = .parse ∧
        (Config.load (m := StateM FileTree) path).run.run tree = (.error error, tree)) ∧
    (∀ (job : Job) (items : List Item) (words : List String),
      job.Arranges items → Said items words → parse words = .ok job) ∧
    ∀ (tree : FileTree) (words : List String) (job : Job) (base : Config),
      parse words = .ok job → job.DepartsFrom tree base →
      ∃ effective : Config, effective.Overrides base job.Sets ∧
        let ran := (Database.run (m := StateM FileTree) job.manifest job.queryFile
          effective).run.run tree
        (run (m := StateM FileTree) words).run tree = (job.outcome ran.1, ran.2) := by
  refine ⟨fun tree path config hreads => ?_, fun tree path text entries hreads hobject hnodup => ?_,
    fun tree path text names field hreads hobject hrepeated => ?_,
    fun job items words harranges hsaid => parse_of_said harranges hsaid,
    fun tree words job base hparse hdeparts => ?_⟩
  · rw [Config.run_load_of_reads hreads, Config.read_render]
  · refine ⟨_, ?_, Config.overrides_foldl hnodup {}⟩
    rw [Config.run_load_of_reads hreads, Config.read_of_isObject hobject hnodup]
  · refine ⟨.malformedConfig, rfl, ?_⟩
    rw [Config.run_load_of_reads hreads, Config.read_of_repeated hobject hrepeated]
  · exact ⟨job.override base, job.overrides_override base, run_of_parse hparse hdeparts rfl⟩

/-- A configuration file with a member of another name, and two options over it. -/
theorem effective_config_of_file_and_options :
    let written : Config := { indexPath := "a\"\n\\😀", resultPaths := .fileName }
    let text := " \x7b\"x\":[\x7b\"analyzer\":null\x7d],\"analyzer\":\"simple\"\x7d"
    let repeated := "\x7b\"analyzer\":\"simple\",\"analyzer\":\"simple\"\x7d"
    let tree := ((FileTree.empty.plant ["w"] (.file written.render.toUTF8)).plant ["c"]
      (.file text.toUTF8)).plant ["r"] (.file repeated.toUTF8)
    let job : Job :=
      { manifest := "m", queryFile := "q", config := some "c", indexOut := some "i",
        resultOut := none, analyzer := none, fileNames := true }
    (Config.load (m := StateM FileTree) "w").run.run tree = (.ok written, tree) ∧
    (∃ error : Error, error.kind = .parse ∧
      (Config.load (m := StateM FileTree) "r").run.run tree = (.error error, tree)) ∧
    ∃ effective : Config,
      effective.indexPath = "i" ∧ effective.resultPath = "resposta.txt" ∧
      effective.analyzer = "simple" ∧ effective.resultPaths = .fileName ∧
      let ran := (Database.run (m := StateM FileTree) "m" "q" effective).run.run tree
      (run (m := StateM FileTree) ["--index-out", "i", "m", "--config=c", "q", "--file-names"]).run
        tree = (job.outcome ran.1, ran.2) := by
  intro written text repeated tree job
  obtain ⟨hwritten, hobject, hrepeated, hparse, hrun⟩ := effective_config
  have htext : IsObject Config.Entry.IsMember [.other "x", .setting .analyzer "simple"] text := by
    have hnested (rest : List Char) : Named (Begins .value) "analyzer"
        ((quote "analyzer").toList ++ ':' :: ("null".toList ++ rest)) rest :=
      named_quote (.null (.refl _)) _
    have hvalue (rest : List Char) : Begins .value ('[' :: '\x7b' :: ((quote "analyzer").toList ++
        ':' :: ("null".toList ++ '\x7d' :: ']' :: rest))) rest :=
      .array (.refl _) (.object (.refl _) ((hnested _).begins_members (.refl _)))
        (.lastElement (.refl _))
    have hother (rest : List Char) : Config.Entry.IsMember (.other "x")
        ((quote "x").toList ++ ':' :: '[' :: '\x7b' :: ((quote "analyzer").toList ++
          ':' :: ("null".toList ++ '\x7d' :: ']' :: rest))) rest :=
      ⟨by decide +kernel, named_quote (hvalue rest) _⟩
    have hsetting (rest : List Char) : Config.Entry.IsMember (.setting .analyzer "simple")
        ((quote "analyzer").toList ++ ':' :: ((quote "simple").toList ++ rest)) rest :=
      named_quote (isText_quote "simple" rest) _
    have hmembers := Members.next (hother _) (.refl _) (.last (hsetting _) (.refl ('\x7d' :: [])))
    exact ⟨_, [], ⟨[' '], by simp [isSpace], by decide +kernel⟩, .refl [], .inr hmembers⟩
  have htwice : IsObject (Named (Begins .value)) ["analyzer", "analyzer"] repeated := by
    have hnamed (rest : List Char) : Named (Begins .value) "analyzer"
        ((quote "analyzer").toList ++ ':' :: ((quote "simple").toList ++ rest)) rest :=
      named_quote (isText_quote "simple" rest).begins _
    have hmembers := Members.next (hnamed _) (.refl _) (.last (hnamed _) (.refl ('\x7d' :: [])))
    exact ⟨_, [], ⟨[], by simp, by decide +kernel⟩, .refl [], .inr hmembers⟩
  have hwords : parse ["--index-out", "i", "m", "--config=c", "q", "--file-names"] = .ok job := by
    refine hparse job [.given .indexOut "i", .given .manifest "m", .given .config "c",
      .given .queryFile "q", .fileNames] _ ⟨?_, by simp [job], by decide, by decide, ?_⟩ ?_
    · intro parameter value
      cases parameter <;> simp [job, Job.value?, eq_comm]
    · intro parameter value hmem _
      simp only [List.mem_cons, Item.given.injEq, reduceCtorEq, List.not_mem_nil, or_false] at hmem
      rcases hmem with ⟨-, rfl⟩ | ⟨-, rfl⟩ | ⟨-, rfl⟩ | ⟨-, rfl⟩
      all_goals decide
    · exact .cons (@Item.Says.separate "index-out" "i" .indexOut rfl (.inr (by simp)))
        (.cons (@Item.Says.plain .manifest "m" rfl (.inr (by simp)))
          (.cons (@Item.Says.joined "config" "c" .config rfl)
            (.cons (@Item.Says.plain .queryFile "q" rfl (.inr (by simp)))
              (.cons .fileNames .nil))))
  have hreads : tree.Reads "c" text := by
    show (tree.read "c").bind decodeText = .ok text
    decide +kernel
  obtain ⟨base, hbase, hover⟩ := hobject tree "c" text _ hreads htext (by decide)
  have hresult : base.resultPath = "resposta.txt" := by
    refine hover.kept .resultPath fun _ hmem => ?_
    rcases List.mem_cons.mp hmem with heq | hmem
    · cases heq
    · cases List.mem_singleton.mp hmem
  have hanalyzer : base.analyzer = "simple" := hover.set .analyzer "simple" (by simp)
  obtain ⟨effective, heffective, hran⟩ := hrun tree _ job base hwords hbase
  refine ⟨hwritten tree "w" written ?_, hrepeated tree "r" repeated _ .analyzer ?_ htwice
    (by decide), effective, heffective.set .indexPath "i" rfl, ?_, ?_,
    heffective.set .resultPaths .fileName ⟨rfl, rfl⟩, hran⟩
  · show (tree.read "w").bind decodeText = .ok written.render
    decide +kernel
  · show (tree.read "r").bind decodeText = .ok repeated
    decide +kernel
  · rw [← hresult]
    exact heffective.kept .resultPath fun _ hsets => Option.some_ne_none _ hsets.symm
  · rw [← hanalyzer]
    exact heffective.kept .analyzer fun _ hsets => Option.some_ne_none _ hsets.symm

end BooleanRetrieval.CommandLine
