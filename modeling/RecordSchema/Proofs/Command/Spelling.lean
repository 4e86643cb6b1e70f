import RecordSchema.Command.Run
import Mathlib.Data.List.Nodup
import Mathlib.Tactic.Use

/-!
# Command lines for one object

The ways to spell what is asked for an object on a command line: the options of the build in any
order, the start of all identifiers in one word or in two, and the path among the options or at the
end behind two dashes. However it is spelled, the command writes what the library makes of the text
at the path, or why it makes nothing of it.
-/

namespace RecordSchema

namespace Command

/-! ### Spellings -/

/-- An option of a build, as it is given. -/
inductive Given where
  | noQuery
  | compact
  /-- The start of all identifiers, in the same word. -/
  | joined (idPrefix : String)
  /-- The start of all identifiers, in a word of its own. -/
  | separate (idPrefix : String)
deriving DecidableEq

namespace Given

/-- The words of an option. -/
def words : Given → List String
  | .noQuery => ["--no-query-schema"]
  | .compact => ["--compact"]
  | .joined idPrefix => ["--id-prefix=" ++ idPrefix]
  | .separate idPrefix => ["--id-prefix", idPrefix]

/-- The name of an option, which no two of a command line may share. -/
def name : Given → String
  | .noQuery => "--no-query-schema"
  | .compact => "--compact"
  | .joined _ | .separate _ => "--id-prefix"

/-- The start of all identifiers that an option gives. -/
def idPrefix? : Given → Option String
  | .noQuery | .compact => none
  | .joined idPrefix | .separate idPrefix => some idPrefix

/-- The switch that an option is. -/
def switch? : Given → Option Switch
  | .noQuery => some .noQuery
  | .compact => some .compact
  | .joined _ | .separate _ => none

/-- A value in a word of its own does not begin with a dash. -/
def IsSayable : Given → Prop
  | .separate idPrefix => idPrefix.toList.head? ≠ some '-'
  | _ => True

end Given

/-- The words spell a path and options: the path stands among the options, if it is one dash or does
not begin with a dash, or behind them and two dashes. -/
inductive Spells (path : String) (given : List Given) : List String → Prop
  | among {before after : List Given} (hgiven : given = before ++ after)
    (hpath : path = "-" ∨ path.toList.head? ≠ some '-') :
    Spells path given (before.flatMap Given.words ++ path :: after.flatMap Given.words)
  | last : Spells path given (given.flatMap Given.words ++ ["--", path])

/-- The settings that options ask for. -/
def settingsOf (given : List Given) : Settings where
  idPrefix := (given.findSome? Given.idPrefix?).getD ({} : Settings).idPrefix
  addQuery := Given.noQuery ∉ given
  pretty := Given.compact ∉ given

/-- What the library makes of a text that describes an object. -/
def described (settings : Settings) (text : String) : Except Failure String := do
  let description ← (Description.parse text).mapError .invalidDescription
  (objectText settings description).result

/-! ### Reading one option -/

variable {options : Options} {given : List Given} {path? : Option String} {path : String}
  {rest : List String}

theorem requestFrom_switch {switch : Switch} (h : options.has switch = false) :
  requestFrom options (switch.word :: rest)
    = requestFrom { options with switches := switch :: options.switches } rest
  := by
  have hword : Word.of switch.word = .switch switch := by cases switch <;> rfl
  rw [requestFrom.eq_def]
  simp only [hword, Options.addSwitch, h]
  rfl

/-- A value in the same word is all that stands behind the first equals sign. -/
theorem of_joined (idPrefix : String) :
  Word.of ("--id-prefix=" ++ idPrefix) = .idPrefix (some idPrefix)
  := by
  have hname : ("--id-prefix=" ++ idPrefix).toList
      = "--id-prefix".toList ++ '=' :: idPrefix.toList := by
    rw [String.toList_append]
    rfl
  have htake : ("--id-prefix=" ++ idPrefix).toList.takeWhile (· ≠ '=') = "--id-prefix".toList := by
    rw [hname, List.takeWhile_append_of_pos (by simp)]
    simp
  have hdrop : ("--id-prefix=" ++ idPrefix).toList.dropWhile (· ≠ '=')
      = '=' :: idPrefix.toList := by
    rw [hname, List.dropWhile_append_of_pos (by simp)]
    simp
  rw [Word.of]
  split
  · rename_i hlist
    rw [hname] at hlist
    cases hlist
  · dsimp only
    rw [htake, hdrop]
    simp only [String.ofList_toList]
    rfl
  · rename_i hdash hlist
    rw [hname] at hlist
    cases hlist
    exact absurd rfl hdash
  · rename_i hdashes _
    exact (hdashes _ hname).elim

theorem requestFrom_joined (h : options.idPrefix = none) (idPrefix : String) :
  requestFrom options (("--id-prefix=" ++ idPrefix) :: rest)
    = requestFrom { options with idPrefix := some idPrefix } rest
  := by
  rw [requestFrom.eq_def]
  simp only [of_joined, Options.addPrefix, h]
  rfl

theorem requestFrom_separate (h : options.idPrefix = none) {idPrefix : String}
    (hdash : idPrefix.toList.head? ≠ some '-') :
  requestFrom options ("--id-prefix" :: idPrefix :: rest)
    = requestFrom { options with idPrefix := some idPrefix } rest
  := by
  have hword : Word.of "--id-prefix" = .idPrefix none := rfl
  have hvalue : isValue idPrefix = true := by
    rw [isValue]
    split
    · rename_i hlist
      rw [hlist] at hdash
      exact absurd rfl hdash
    · rfl
  rw [requestFrom.eq_def]
  simp only [hword, hvalue, Options.addPrefix, h]
  rfl

/-- A word that does not begin with a dash, or is one, is a path. -/
theorem of_path (h : path = "-" ∨ path.toList.head? ≠ some '-') :
  Word.of path = .path path
  := by
  rcases h with rfl | h
  · rfl
  · rw [Word.of]
    split
    · rename_i hlist
      rw [hlist] at h
      exact absurd rfl h
    · rename_i hlist
      rw [hlist] at h
      exact absurd rfl h
    · rename_i hlist
      rw [hlist] at h
      exact absurd rfl h
    · rfl

theorem addPath_of_none (h : options.path = none) (hempty : path ≠ "") :
  options.addPath path = .ok { options with path := some path }
  := by
  rw [Options.addPath, h]
  simp [hempty]

theorem requestFrom_path (h : options.path = none) (hempty : path ≠ "")
    (hpath : path = "-" ∨ path.toList.head? ≠ some '-') :
  requestFrom options (path :: rest) = requestFrom { options with path := some path } rest
  := by
  rw [requestFrom.eq_def]
  simp only [of_path hpath, addPath_of_none h hempty]
  rfl

/-- Behind two dashes every word is a path. -/
theorem requestFrom_dashes (h : options.path = none) (hempty : path ≠ "") :
  requestFrom options ["--", path] = Options.request { options with path := some path }
  := by
  have hword : Word.of "--" = .dashes := rfl
  rw [requestFrom.eq_def]
  simp only [hword, Options.addPaths, addPath_of_none h hempty]
  rfl

/-! ### Reading all options -/

/-- What the words before have said: some options and perhaps a path. -/
structure Options.Says (options : Options) (given : List Given) (path? : Option String) : Prop where
  path : options.path = path?
  idPrefix : options.idPrefix = given.findSome? Given.idPrefix?
  has_iff : ∀ switch, options.has switch = true ↔ ∃ g ∈ given, g.switch? = some switch

/-- Options with the same switch have the same name. -/
theorem Given.name_of_switch? {g : Given} {switch : Switch} (h : g.switch? = some switch) :
  g.name = switch.word
  := by
  cases g with
  | noQuery =>
      obtain rfl := Option.some.inj h
      rfl
  | compact =>
      obtain rfl := Option.some.inj h
      rfl
  | joined idPrefix => cases h
  | separate idPrefix => cases h

theorem Given.name_of_idPrefix? {g : Given} {idPrefix : String} (h : g.idPrefix? = some idPrefix) :
  g.name = "--id-prefix"
  := by
  cases g with
  | noQuery => cases h
  | compact => cases h
  | joined idPrefix => rfl
  | separate idPrefix => rfl

/-- A switch whose name has not been used has not been given. -/
theorem Options.Says.has_eq_false (h : options.Says given path?) {switch : Switch}
    (hname : switch.word ∉ given.map Given.name) :
  options.has switch = false
  := by
  apply eq_false_of_ne_true
  intro hhas
  obtain ⟨g, hg, hswitch⟩ := (h.has_iff switch).mp hhas
  apply hname
  rw [← Given.name_of_switch? hswitch]
  apply List.mem_map_of_mem hg

theorem Options.Says.idPrefix_eq_none (h : options.Says given path?)
    (hname : "--id-prefix" ∉ given.map Given.name) :
  options.idPrefix = none
  := by
  rw [h.idPrefix, List.findSome?_eq_none_iff]
  intro g hg
  cases hvalue : g.idPrefix? with
  | none => rfl
  | some idPrefix =>
      refine absurd ?_ hname
      rw [← Given.name_of_idPrefix? hvalue]
      apply List.mem_map_of_mem hg

theorem Options.Says.addSwitch (h : options.Says given path?) {g : Given} {switch : Switch}
    (hg : g.switch? = some switch) (hvalue : g.idPrefix? = none) :
  Options.Says { options with switches := switch :: options.switches } (given ++ [g]) path?
  where
  path := h.path
  idPrefix := by simpa [List.findSome?_append, hvalue] using h.idPrefix
  has_iff other := by
    have hhas := h.has_iff other
    rw [has, List.contains_iff_mem] at hhas
    rw [has, List.contains_iff_mem, List.mem_cons, hhas, or_comm, @eq_comm _ other]
    simp [or_and_right, exists_or, hg]

theorem Options.Says.addPrefix (h : options.Says given path?) {g : Given} {idPrefix : String}
    (hnone : options.idPrefix = none) (hvalue : g.idPrefix? = some idPrefix)
    (hg : g.switch? = none) :
  Options.Says { options with idPrefix := some idPrefix } (given ++ [g]) path?
  where
  path := h.path
  idPrefix := by
    rw [h.idPrefix] at hnone
    simp [List.findSome?_append, hnone, hvalue]
  has_iff switch := by
    have hhas := h.has_iff switch
    rw [has, List.contains_iff_mem] at hhas
    rw [has, List.contains_iff_mem, hhas]
    simp [or_and_right, exists_or, hg]

theorem Options.Says.addPath (h : options.Says given none) (path : String) :
  Options.Says { options with path := some path } given (some path)
  := ⟨rfl, h.idPrefix, h.has_iff⟩

/-- One more option is read from its words, whatever stands behind them. -/
theorem exists_says_words (h : options.Says given path?) {g : Given}
    (hname : g.name ∉ given.map Given.name) (hsayable : g.IsSayable) (rest : List String) :
  ∃ others, requestFrom options (g.words ++ rest) = requestFrom others rest
    ∧ others.Says (given ++ [g]) path?
  := by
  cases g with
  | noQuery =>
      have hnoQuery : options.has .noQuery = false := h.has_eq_false hname
      exact ⟨_, requestFrom_switch hnoQuery, h.addSwitch rfl rfl⟩
  | compact =>
      have hcompact : options.has .compact = false := h.has_eq_false hname
      exact ⟨_, requestFrom_switch hcompact, h.addSwitch rfl rfl⟩
  | joined idPrefix =>
      have hnone := h.idPrefix_eq_none hname
      exact ⟨_, requestFrom_joined hnone idPrefix, h.addPrefix hnone rfl rfl⟩
  | separate idPrefix =>
      have hnone := h.idPrefix_eq_none hname
      exact ⟨_, requestFrom_separate hnone hsayable, h.addPrefix hnone rfl rfl⟩

/-- Options of different names are read one by one, in any order. -/
theorem exists_says_flatMap {more : List Given} (h : options.Says given path?)
    (hnames : ((given ++ more).map Given.name).Nodup) (hsayable : ∀ g ∈ more, g.IsSayable)
    (rest : List String) :
  ∃ others, requestFrom options (more.flatMap Given.words ++ rest) = requestFrom others rest
    ∧ others.Says (given ++ more) path?
  := by
  induction more generalizing options given with
  | nil => exact ⟨options, rfl, by rwa [List.append_nil]⟩
  | cons g more ih =>
      obtain ⟨hg, hmore⟩ := List.forall_mem_cons.mp hsayable
      have hname : g.name ∉ given.map Given.name := by
        rw [List.map_append, List.map_cons] at hnames
        intro hmem
        exact (List.disjoint_of_nodup_append hnames) hmem List.mem_cons_self
      obtain ⟨next, hnext, hsaid⟩ :=
        exists_says_words h hname hg (more.flatMap Given.words ++ rest)
      rw [List.append_cons] at hnames
      obtain ⟨others, hothers, hall⟩ := ih hsaid hnames hmore
      use others
      rw [List.flatMap_cons, List.append_assoc, hnext, hothers, List.append_cons]
      exact ⟨rfl, hall⟩

theorem says_starting :
  ({} : Options).Says [] none
  := ⟨rfl, rfl, by simp [Options.has]⟩

/-- A switch has been given when the one option for it has. -/
theorem Options.Says.has_iff_mem (h : options.Says given path?) {g : Given} {switch : Switch}
    (honly : ∀ other : Given, other.switch? = some switch ↔ other = g) :
  options.has switch = true ↔ g ∈ given
  := by
  rw [h.has_iff]
  simp only [honly, exists_eq_right]

/-- Options that say these and a path ask for the object at the path. -/
theorem Options.Says.request_eq (h : options.Says given (some path)) :
  options.request = .ok (.object path (settingsOf given))
  := by
  have hinterface : options.has .interface = false := by
    apply eq_false_of_ne_true
    rw [h.has_iff]
    rintro ⟨g, -, hg⟩
    cases g <;> cases hg
  have hnoQuery : options.has .noQuery = true ↔ Given.noQuery ∈ given :=
    h.has_iff_mem fun other => by cases other <;> simp [Given.switch?]
  have hcompact : options.has .compact = true ↔ Given.compact ∈ given :=
    h.has_iff_mem fun other => by cases other <;> simp [Given.switch?]
  have hsettings : options.settings = settingsOf given := by
    rw [Options.settings, settingsOf, h.idPrefix]
    congr 1
    · rw [Bool.eq_iff_iff]
      simp [← hnoQuery]
    · rw [Bool.eq_iff_iff]
      simp [← hcompact]
  rw [Options.request, h.path]
  simp only [hinterface, hsettings]
  rfl

/-- Words that spell a path and options of different names ask for the object at the path. -/
theorem ofWords_of_spells {words : List String} (hwords : Spells path given words)
    (hnames : (given.map Given.name).Nodup) (hsayable : ∀ g ∈ given, g.IsSayable)
    (hempty : path ≠ "") :
  Request.ofWords words = .ok (.object path (settingsOf given))
  := by
  rw [Request.ofWords]
  cases hwords with
  | @among before after hgiven hpath =>
      subst hgiven
      have hbefore : (([] ++ before).map Given.name).Nodup := by
        rw [List.map_append] at hnames
        exact hnames.of_append_left
      obtain ⟨first, hfirst, hsaysBefore⟩ := exists_says_flatMap says_starting hbefore
        (fun g hg => hsayable g (List.mem_append_left _ hg))
        (path :: after.flatMap Given.words)
      obtain ⟨all, hall, hsaid⟩ := exists_says_flatMap (hsaysBefore.addPath path) hnames
        (fun g hg => hsayable g (List.mem_append_right _ hg)) []
      rw [List.append_nil] at hall
      rw [hfirst, requestFrom_path hsaysBefore.path hempty hpath, hall, requestFrom]
      apply hsaid.request_eq
  | last =>
      obtain ⟨all, hall, hsaid⟩ := exists_says_flatMap says_starting hnames hsayable ["--", path]
      rw [hall, requestFrom_dashes hsaid.path hempty]
      apply (hsaid.addPath path).request_eq

/-! ### Outcomes -/

/-- Bytes that are the UTF-8 of a text are read as it. -/
theorem textOf_toUTF8 (text : String) :
  textOf text.toUTF8 = .ok text
  := by
  have hread : String.fromUTF8? text.toUTF8 = some text := by
    rw [String.fromUTF8?, String.toUTF8_eq_toByteArray, dif_pos text.isValidUTF8]
    rfl
  rw [textOf, hread]

/-- The build of the text for a described object gives what the library makes of the text. -/
theorem result_objectOf (settings : Settings) (text : String) :
  (objectOf settings text).result = described settings text
  := by
  rw [objectOf, described]
  cases Description.parse text with
  | ok description => rfl
  | error error => rfl

/-- However an object is asked for, the command writes what the library makes of the text at the
path and nothing else, or why it makes nothing of it. -/
theorem run_of_spells {inputs : Inputs} {words : List String} {text : String}
    (hwords : Spells path given words) (hnames : (given.map Given.name).Nodup)
    (hsayable : ∀ g ∈ given, g.IsSayable) (hempty : path ≠ "")
    (htext : (if path = "-" then .ok inputs.standard else inputs.file path) = .ok text.toUTF8) :
  run inputs words =
    match described (settingsOf given) text with
    | .ok schemas => { exitCode := 0, output := schemas ++ "\n", errors := "" }
    | .error failure =>
      { exitCode := 1, output := "", errors := "error: " ++ failure.message ++ "\n" }
  := by
  have hread : inputs.text path = .ok text := by
    rw [Inputs.text]
    split at htext
    · rename_i hpath
      rw [if_pos hpath, Except.ok.inj htext, textOf_toUTF8]
    · rename_i hpath
      rw [if_neg hpath, htext]
      exact textOf_toUTF8 text
  rw [run, ofWords_of_spells hwords hnames hsayable hempty]
  dsimp only
  rw [Request.outcome, hread]
  dsimp only
  rw [Outcome.ofBuild, result_objectOf]
  cases described (settingsOf given) text with
  | ok schemas => rfl
  | error failure => rfl

/-- A file whose name begins with a dash, which describes a note. -/
def noteInputs : Inputs where
  file path := if path = "-note" then .ok "\x7b\"name\":\"Note\"\x7d".toUTF8 else .error .notFound
  standard := .empty

theorem run_of_spells_note :
  run noteInputs ["--compact", "--id-prefix", "urn:a", "--no-query-schema", "--", "-note"]
    = { exitCode := 0
        output := "\x7b\"type\":\"object\",\"$schema\":\"http://json-schema.org/draft-04/schema#\","
          ++ "\"id\":\"urn:a\",\"oneOf\":["
          ++ "\x7b\"type\":\"object\",\"id\":\"urn:a:Note\",\"title\":\"\"\x7d]\x7d\n"
        errors := "" }
  := by
  have hwords : Spells "-note" [.compact, .separate "urn:a", .noQuery]
      ["--compact", "--id-prefix", "urn:a", "--no-query-schema", "--", "-note"] := .last
  have htext : (if "-note" = "-" then .ok noteInputs.standard else noteInputs.file "-note")
      = .ok "\x7b\"name\":\"Note\"\x7d".toUTF8 := by
    simp [noteInputs]
  rw [run_of_spells hwords (by decide) (by simp [Given.IsSayable]) (by decide) htext]
  decide +kernel

end Command

end RecordSchema
