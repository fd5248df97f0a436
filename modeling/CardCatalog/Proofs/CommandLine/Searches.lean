import CardCatalog.CommandLine
import CardCatalog.Proofs.Plan.Outcome

/-!
# Command lines for searches

Every search can be asked for, whatever its expression and with whatever switches
(`exists_read_eq_search`): behind two dashes each word belongs to the expression.
-/

namespace CardCatalog.CommandLine

/-- The word, if it is wanted. -/
def wordIf (wanted : Bool) (word : Text) : List Text := if wanted then [word] else []

/-- The switch, if it is given. -/
def switchIf (given : Bool) (switch : Switch) : List Switch := if given then [switch] else []

/-- The name of a search. -/
def searchName : Command → Text
  | .compile _ _ => "compile"
  | .parse _ => "parse"
  | .tokens _ => "tokens"
  | .check _ => "check"
  | .fields => "fields"
  | .guide => "syntax"
  | _ => []

/-- The words of a search behind its name. -/
def searchWords : Command → List Text
  | .compile tightest words => wordIf tightest "--tightest" ++ ['-', '-'] :: words
  | .parse words | .tokens words | .check words => ['-', '-'] :: words
  | _ => []

theorem mem_switchIf_iff {given : Bool} {switch other : Switch} :
    other ∈ switchIf given switch ↔ given = true ∧ other = switch := by
  cases given <;> simp [switchIf]

theorem readName_switches (level : Level) (quiet json noColor : Bool) {name : Text}
    (hend : isEnd name = false) (hswitch : looksLikeSwitch name = false) (rest : List Text) :
    level.readName []
        (wordIf quiet "--quiet" ++ (wordIf json "--json" ++
          (wordIf noColor "--no-color" ++ name :: rest))) =
      .ok (switchIf noColor .noColor ++ (switchIf json .json ++ switchIf quiet .quiet),
        some (name, rest)) := by
  have hname (given : List Switch) :
      level.readName given (name :: rest) = .ok (given, some (name, rest)) := by
    rw [Level.readName, hend, hswitch]
    rfl
  cases quiet <;> cases json <;> cases noColor <;> exact hname _

theorem readCommand_search {command : Command} (h : command.isSearch = true) (path : List Text)
    (verbose : Bool) :
    ∃ tightest, readCommand path (searchName command)
        (wordIf verbose "--verbose" ++ searchWords command) =
      .ok (switchIf tightest .tightest ++ switchIf verbose .verbose, command) := by
  cases command with
  | compile tightest words => exact ⟨tightest, by cases verbose <;> cases tightest <;> rfl⟩
  | settings action => cases h
  | completions shell => cases h
  | _ => exact ⟨false, by cases verbose <;> rfl⟩

/-- **Every search can be asked for**, with any switches and for any expression. -/
theorem exists_read_eq_search (flags : Flags) {command : Command} (h : command.isSearch = true) :
    ∃ words, read words = .ok ⟨flags, some command⟩ := by
  obtain ⟨verbose, quiet, json, noColor⟩ := flags
  obtain ⟨tightest, hcommand⟩ := readCommand_search h [program] verbose
  have hname : isEnd (searchName command) = false ∧
      looksLikeSwitch (searchName command) = false := by
    cases command <;> exact ⟨rfl, rfl⟩
  refine ⟨wordIf quiet "--quiet" ++ (wordIf json "--json" ++ (wordIf noColor "--no-color" ++
    searchName command :: (wordIf verbose "--verbose" ++ searchWords command))), ?_⟩
  have hagree : checkConflict
      (switchIf noColor .noColor ++ (switchIf json .json ++ switchIf quiet .quiet)) = .ok () := by
    simp [checkConflict, mem_switchIf_iff]
  have hflags : flagsOf (switchIf tightest .tightest ++ switchIf verbose .verbose ++
      (switchIf noColor .noColor ++ (switchIf json .json ++ switchIf quiet .quiet))) =
      ⟨verbose, quiet, json, noColor⟩ := by
    simp [flagsOf, mem_switchIf_iff]
  simp only [read, readName_switches _ _ _ _ hname.1 hname.2, hcommand, hagree, bind, Except.bind,
    hflags]
  rfl

end CardCatalog.CommandLine
