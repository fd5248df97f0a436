import CardCatalog.CommandLine
import CardCatalog.Proofs.Settings.Failures

/-!
# One switch more

Quiet or verbose can be put in front of a command line that has neither, and are understood there:
the line asks for the same command, with one flag more. A line that asks for help or the version
still does so, unless the switch is given twice before it is asked (`adds_cons`).

With a switch among those given at the start, a reader ends up with it among those given at the end,
or it meets it again and stops (`Carries`). This goes through the readers one by one.
-/

namespace CardCatalog

/-- The flags with a switch given as well. -/
def Flags.add (flags : Flags) : Switch → Flags
  | .verbose => { flags with verbose := true }
  | .quiet => { flags with quiet := true }
  | .json => { flags with json := true }
  | .noColor => { flags with noColor := true }
  | .tightest | .version | .help => flags

namespace CommandLine

/-- The line is understood, or it asks for help or the version. -/
def Accepted (words : List Text) : Prop := ∀ fault, read words ≠ .error (.fault fault)

/-- The second line asks for what the first one does, with a switch given as well. -/
def Adds (switch : Switch) (words more : List Text) : Prop :=
  read more = (read words).map fun invocation =>
    { invocation with flags := invocation.flags.add switch }

/-- The words for a switch, as they stand on their own. -/
def spellings : Switch → List Text
  | .verbose => ["-v", "--verbose"]
  | .quiet => ["-q", "--quiet"]
  | .json => ["--json"]
  | .noColor => ["--no-color"]
  | .tightest => ["--tightest"]
  | .version => ["-V", "--version"]
  | .help => ["-h", "--help"]

/-! ## Readers -/

/-- The reader carries the switch along: what is given at its end has the switch if what is given at
its start has it. With the switch given before anything else, nothing changes but that it is given
before anything else at the end as well, unless the reader meets it a second time. -/
structure Carries {α : Type} (switch : Switch) (givenOf : α → List Switch) (extend : α → α)
    (reader : List Switch → Except Halt α) : Prop where
  keeps : ∀ given a, switch ∈ given → reader given = .ok a → switch ∈ givenOf a
  adds : ∀ given, reader (given ++ [switch]) = (reader given).map extend ∨
    (∃ word, reader (given ++ [switch]) = .error (.fault (.repeatedSwitch word))) ∧
      ∀ a, reader given = .ok a → switch ∈ givenOf a

section Carries

variable {α : Type} {switch : Switch} {givenOf : α → List Switch} {extend : α → α}

theorem carries_error (halt : Halt) :
    Carries switch givenOf extend fun _ => .error halt where
  keeps _ _ _ h := by cases h
  adds _ := Or.inl rfl

theorem carries_ok {next : List Switch → α}
    (hgiven : ∀ given, switch ∈ given → switch ∈ givenOf (next given))
    (hnext : ∀ given, next (given ++ [switch]) = extend (next given)) :
    Carries switch givenOf extend fun given => .ok (next given) where
  keeps given a hmem h := by
    cases h
    exact hgiven given hmem
  adds given := Or.inl (by rw [hnext]; rfl)

theorem Carries.bind {reader : List Switch → Except Halt (List Switch)}
    {next : List Switch → Except Halt α}
    (hreader : Carries switch id (· ++ [switch]) reader)
    (hnext : Carries switch givenOf extend next) :
    Carries switch givenOf extend fun given => reader given >>= next where
  keeps given a hmem h := by
    obtain ⟨between, hbetween, h⟩ := exists_bind_eq_ok h
    exact hnext.keeps between a (hreader.keeps given between hmem hbetween) h
  adds given := by
    rcases hreader.adds given with hsame | ⟨⟨word, hagain⟩, hmem⟩
    · rw [hsame]
      cases reader given with
      | error halt => exact Or.inl rfl
      | ok between => exact hnext.adds between
    · refine Or.inr ⟨⟨word, by rw [hagain]; rfl⟩, fun a h => ?_⟩
      obtain ⟨between, hbetween, h⟩ := exists_bind_eq_ok h
      exact hnext.keeps between a (hmem between hbetween) h

end Carries

section Levels

variable (level : Level) (switch : Switch)

theorem carries_give (other : Switch) (word : Text) :
    Carries switch id (· ++ [switch]) fun given => level.give given other word := by
  have hplain : Carries switch id (· ++ [switch]) fun given =>
      if other ∈ given then .error (.fault (.repeatedSwitch word)) else .ok (other :: given) := by
    constructor
    · intro given a hmem h
      split at h
      · cases h
      · cases h
        exact List.mem_cons_of_mem other hmem
    · intro given
      by_cases hother : other ∈ given
      · exact Or.inl (by rw [if_pos hother, if_pos (List.mem_append_left _ hother)]; rfl)
      · by_cases hswitch : other = switch
        · subst hswitch
          refine Or.inr ⟨⟨word, if_pos (List.mem_append_right _ List.mem_cons_self)⟩, ?_⟩
          intro a h
          rw [if_neg hother] at h
          cases h
          exact List.mem_cons_self
        · refine Or.inl ?_
          rw [if_neg hother, if_neg (by simp [hother, hswitch])]
          rfl
  cases other with
  | help => exact carries_error .help
  | version => exact carries_error (.version level.path)
  | _ => exact hplain

theorem carries_giveLetters (word letters : Text) :
    Carries switch id (· ++ [switch]) fun given => level.giveLetters word given letters := by
  induction letters with
  | nil => exact carries_ok (fun _ hmem => hmem) fun _ => rfl
  | cons letter rest ih =>
    unfold Level.giveLetters
    cases CommandLine.letters.lookup letter with
    | none => exact carries_error _
    | some other => exact (carries_give level switch other word).bind ih

theorem carries_giveWord (word : Text) :
    Carries switch id (· ++ [switch]) fun given => level.giveWord given word := by
  unfold Level.giveWord
  split
  · split
    · exact carries_error _
    · split
      · exact carries_error _
      · exact carries_give level switch _ _
  · exact carries_giveLetters level switch word _

theorem carries_readName (words : List Text) :
    Carries switch Prod.fst (Prod.map (· ++ [switch]) id) fun given =>
      level.readName given words := by
  induction words with
  | nil => exact carries_ok (fun _ hmem => hmem) fun _ => rfl
  | cons word rest ih =>
    unfold Level.readName
    split
    · cases exactly 0 rest with
      | error halt => exact carries_error halt
      | ok _ => exact carries_ok (fun _ hmem => hmem) fun _ => rfl
    · split
      · exact (carries_giveWord level switch word).bind ih
      · exact carries_ok (fun _ hmem => hmem) fun _ => rfl

end Levels

/-! ## Whole lines -/

theorem flagsOf_append (given : List Switch) (switch : Switch) :
    flagsOf (given ++ [switch]) = (flagsOf given).add switch := by
  cases switch <;> simp [flagsOf, Flags.add]

/-- A switch in front of the words is the first to be given. -/
theorem readName_cons {switch : Switch} (hswitch : switch = .verbose ∨ switch = .quiet) {word : Text}
    (hword : word ∈ spellings switch) (level : Level) (words : List Text) :
    level.readName [] (word :: words) = level.readName [switch] words := by
  rw [Level.readName]
  rcases hswitch with rfl | rfl <;>
    simp only [spellings, List.mem_cons, List.not_mem_nil, or_false] at hword <;>
    rcases hword with rfl | rfl <;> rfl

/-- The switches of the program are made up with those of the command. -/
def finish (below given : List Switch) (command : Option Command) : Except Halt Invocation := do
  checkConflict given
  return ⟨flagsOf (below ++ given), command⟩

/-- What is made of the switches of the program and of what comes behind them. -/
def readNext (next : List Switch × Option (Text × List Text)) : Except Halt Invocation :=
  match next.2 with
  | none => finish [] next.1 none
  | some (name, rest) =>
    readCommand [program] name rest >>= fun below => finish below.1 next.1 (some below.2)

theorem readNext_some (given : List Switch) (name : Text) (rest : List Text) :
    readNext (given, some (name, rest)) =
      readCommand [program] name rest >>= fun below => finish below.1 given (some below.2) := rfl

theorem read_eq (words : List Text) :
    read words = Level.readName ⟨[program], false⟩ [] words >>= readNext := by
  unfold read
  congr 1

/-- Neither quiet nor verbose is given. -/
def Plain (invocation : Invocation) : Prop :=
  invocation.flags.verbose = false ∧ invocation.flags.quiet = false

theorem exists_flags_eq {next : List Switch × Option (Text × List Text)} {invocation : Invocation}
    (h : readNext next = .ok invocation) : ∃ below, invocation.flags = flagsOf (below ++ next.1) := by
  have hfinish {below : List Switch} {command : Option Command}
      (h : finish below next.1 command = .ok invocation) :
      ∃ below, invocation.flags = flagsOf (below ++ next.1) := by
    obtain ⟨_, -, h⟩ := exists_bind_eq_ok h
    cases h
    exact ⟨below, rfl⟩
  unfold readNext at h
  split at h
  · exact hfinish h
  · obtain ⟨_, -, h⟩ := exists_bind_eq_ok h
    exact hfinish h

section Plain

variable {switch : Switch} (hswitch : switch = .verbose ∨ switch = .quiet)

include hswitch

theorem finish_append {below given : List Switch} {command : Option Command}
    (hplain : ∀ invocation, finish below given command = .ok invocation → Plain invocation) :
    finish below (given ++ [switch]) command =
      (finish below given command).map fun invocation =>
        { invocation with flags := invocation.flags.add switch } := by
  unfold finish checkConflict at *
  by_cases hconflict : (decide (.quiet ∈ given) && decide (.verbose ∈ given)) = true
  · -- switches that exclude each other do so with any others beside them
    have hstill : (decide (.quiet ∈ given ++ [switch]) &&
        decide (.verbose ∈ given ++ [switch])) = true := by
      simp only [Bool.and_eq_true, decide_eq_true_eq, List.mem_append] at hconflict ⊢
      exact ⟨Or.inl hconflict.1, Or.inl hconflict.2⟩
    rw [if_pos hconflict, if_pos hstill]
    rfl
  · rw [if_neg hconflict] at hplain ⊢
    obtain ⟨hverbose, hquiet⟩ := hplain _ rfl
    simp only [flagsOf, decide_eq_false_iff_not, List.mem_append, not_or] at hverbose hquiet
    have hagree : ¬ (decide (.quiet ∈ given ++ [switch]) &&
        decide (.verbose ∈ given ++ [switch])) = true := by
      rcases hswitch with rfl | rfl <;> simp [hverbose.2, hquiet.2]
    rw [if_neg hagree, ← List.append_assoc]
    simp only [bind, Except.bind, pure, Except.pure, Except.map, flagsOf_append]

theorem not_plain_of_mem {next : List Switch × Option (Text × List Text)} {invocation : Invocation}
    (hmem : switch ∈ next.1) (h : readNext next = .ok invocation) : ¬ Plain invocation := by
  obtain ⟨below, hflags⟩ := exists_flags_eq h
  unfold Plain
  rw [hflags]
  rcases hswitch with rfl | rfl <;> simp [flagsOf, hmem]

theorem readNext_append {given : List Switch} {next : Option (Text × List Text)}
    (hplain : ∀ invocation, readNext (given, next) = .ok invocation → Plain invocation) :
    readNext (given ++ [switch], next) =
      (readNext (given, next)).map fun invocation =>
        { invocation with flags := invocation.flags.add switch } := by
  cases next with
  | none => exact finish_append hswitch hplain
  | some next =>
    obtain ⟨name, rest⟩ := next
    simp only [readNext_some] at hplain ⊢
    cases hcommand : readCommand [program] name rest with
    | error halt => rfl
    | ok below =>
      rw [hcommand] at hplain
      exact finish_append hswitch hplain

/-- A line with the switch in front has one flag more, or it gives the switch twice, and then it was
not understood as a plain one before. -/
theorem adds_cons_or {word : Text} (hword : word ∈ spellings switch) {words : List Text}
    (hplain : ∀ invocation, read words = .ok invocation → Plain invocation) :
    Adds switch words (word :: words) ∨
      (∃ again, read (word :: words) = .error (.fault (.repeatedSwitch again))) ∧
        ∀ invocation, read words ≠ .ok invocation := by
  unfold Adds
  rw [read_eq, read_eq, readName_cons hswitch hword]
  rw [read_eq] at hplain
  rcases (carries_readName ⟨[program], false⟩ switch words).adds [] with
    hadds | ⟨⟨again, hagain⟩, hmem⟩
  · left
    rw [List.nil_append] at hadds
    rw [hadds]
    cases hnext : Level.readName ⟨[program], false⟩ [] words with
    | error halt => rfl
    | ok next =>
      rw [hnext] at hplain
      exact readNext_append hswitch hplain
  · right
    rw [List.nil_append] at hagain
    refine ⟨⟨again, by rw [hagain]; rfl⟩, fun invocation h => ?_⟩
    obtain ⟨next, hnext, hread⟩ := exists_bind_eq_ok h
    exact not_plain_of_mem hswitch (hmem next hnext) hread (hplain invocation h)

/-- **Quiet or verbose in front of a plain line are understood.** -/
theorem adds_cons {word : Text} (hword : word ∈ spellings switch) {words : List Text}
    (hplain : ∀ invocation, read words = .ok invocation → Plain invocation)
    (haccepted : (∃ invocation, read words = .ok invocation) ∨ Accepted (word :: words)) :
    Adds switch words (word :: words) := by
  rcases adds_cons_or hswitch hword hplain with hadds | ⟨⟨again, hagain⟩, hnot⟩
  · exact hadds
  · rcases haccepted with ⟨invocation, h⟩ | haccepted
    · exact absurd h (hnot invocation)
    · exact absurd hagain (haccepted _)

end Plain

end CommandLine

end CardCatalog
