import OutlineWiki.Command.Run
import OutlineWiki.Proofs.Outcomes
import OutlineWiki.Proofs.TextHalves

/-!
# What a command leaves behind

A command that is to write a file touches two places at most: that of its log file, and that of the file,
which it comes to last. A command that is stopped on the way leaves the file as it was, with one exception:
a text that no file takes, for it holds halves of surrogate pairs, is refused only after the file has been emptied
for it.
-/

namespace OutlineWiki

open Files

namespace Files.Tree

/-- A place without a directory is below the top. -/
theorem below_of_noDirectory {tree : Tree} {place : Place} (noDirectory : tree.get? place ≠ some .directory) :
    place ≠ [] := by
  rintro rfl
  exact noDirectory rfl

/-- Two trees with the same directories that differ at exempted places only. -/
structure AlikeBut (exempt : Place → Prop) (before after : Tree) : Prop where
  elsewhere : ∀ place, ¬ exempt place → after.get? place = before.get? place
  directories : ∀ place, after.get? place = some .directory ↔ before.get? place = some .directory
  halves : after.halves = before.halves

namespace AlikeBut

variable {exempt more : Place → Prop} {first second third tree : Tree} {place : Place}

/-- A tree is like itself. -/
theorem refl (exempt : Place → Prop) (tree : Tree) : AlikeBut exempt tree tree :=
  ⟨fun _ _ => rfl, fun _ => .rfl, rfl⟩

/-- What is done to a tree in two steps is done to it. -/
theorem trans (known : AlikeBut exempt first second) (next : AlikeBut exempt second third) :
    AlikeBut exempt first third :=
  ⟨fun place other => (next.elsewhere place other).trans (known.elsewhere place other),
    fun place => (next.directories place).trans (known.directories place), next.halves.trans known.halves⟩

/-- More places may be exempted. -/
theorem weaken (known : AlikeBut exempt first second) (wider : ∀ place, exempt place → more place) :
    AlikeBut more first second :=
  ⟨fun place other => known.elsewhere place (mt (wider place) other), known.directories, known.halves⟩

/-- A file that is put at an exempted place where no directory is touches nothing else. -/
theorem put (isExempt : exempt place) (noDirectory : tree.get? place ≠ some .directory) (content : String) :
    AlikeBut exempt tree (tree.put place (.file content)) := by
  refine ⟨fun other notExempt => tree.get?_put_of_ne ?_ _, fun other => ?_, tree.halves_put place _⟩
  · rintro rfl
    exact notExempt isExempt
  · by_cases same : other = place
    · subst same
      simp [get?_put_self _ (below_of_noDirectory noDirectory), noDirectory]
    · rw [get?_put_of_ne _ same]

/-- Appending to a file at an exempted place where no directory is touches nothing else. -/
theorem append (isExempt : exempt place) (noDirectory : tree.get? place ≠ some .directory) (content : String) :
    AlikeBut exempt tree (tree.append place content) := by
  unfold Tree.append
  split <;> exact put isExempt noDirectory _

/-- Names lead to the same place where the directories are the same. -/
theorem follow_eq_ok (known : AlikeBut exempt first second) {names : List String} {start target : Place} :
    second.follow start names = .ok target ↔ first.follow start names = .ok target := by
  induction names generalizing start with
  | nil => rfl
  | cons name rest inductionHypothesis =>
    by_cases isDirectory : first.get? start = some .directory
    · have still := (known.directories start).mpr isDirectory
      simp only [follow, isDirectory, still, known.halves]
      split
      · exact inductionHypothesis
      · split
        · rfl
        · exact inductionHypothesis
    · have stillNot := mt (known.directories start).mp isDirectory
      have fails {tree : Tree} (noDirectory : tree.get? start ≠ some .directory) :
          tree.follow start (name :: rest) ≠ .ok target := by
        unfold follow
        split
        case h_3 found => exact absurd found noDirectory
        all_goals nofun
      simp [fails isDirectory, fails stillNot]

/-- A path leads to the same place where the directories are the same. -/
theorem locate_eq_ok (known : AlikeBut exempt first second) {current target : Place} {path : Path} :
    second.locate current path = .ok target ↔ first.locate current path = .ok target := by
  unfold locate
  rw [known.halves]
  split
  · rfl
  · exact known.follow_eq_ok

end AlikeBut

variable {tree after : Tree} {current place : Place} {path : Path} {content : String}

/-- A file that is opened is where its path leads, and no directory is there. -/
theorem openFile_eq_ok (opened : tree.openFile current path = .ok (place, content)) :
    tree.locate current path = .ok place ∧ tree.get? place ≠ some .directory := by
  unfold openFile at opened
  cases located : tree.locate current path with
  | error reason => simp [located] at opened
  | ok found =>
    simp only [located] at opened
    split at opened
    case h_2 => cases opened
    all_goals
      rename_i atPlace
      obtain ⟨rfl, -⟩ := Prod.mk.inj (Except.ok.inj opened)
      exact ⟨rfl, by simp [atPlace]⟩

/-- A file that is written is put where its path leads, and no directory was there. -/
theorem write_eq_ok (written : tree.write current path content = .ok after) :
    ∃ place, tree.locate current path = .ok place ∧ tree.get? place ≠ some .directory ∧
      after = tree.put place (.file content) := by
  obtain ⟨⟨place, before⟩, opened, made⟩ := bind_eq_ok.mp written
  obtain ⟨located, noDirectory⟩ := openFile_eq_ok opened
  exact ⟨place, located, noDirectory, (pure_eq_ok.mp made).symm⟩

end Files.Tree

namespace Command

/-! ## The log file -/

/-- The place of the log file that a command opens, if it opens one. -/
def logPlace? (world : World) (arguments : Arguments) : Option Place :=
  arguments.logFile.bind fun name =>
    if name = "" then none
    else (world.place.tree.openFile world.place.current (logPath world name)).toOption.map (·.1)

/-- Whether a place is that of the log file. -/
def IsLog (world : World) (arguments : Arguments) (place : Place) : Prop :=
  logPlace? world arguments = some place

variable {world : World} {arguments : Arguments} {journal : Journal}

/-- A log with a file where no directory is. -/
def Journal.HasRoom (journal : Journal) : Prop :=
  ∀ place, journal.file = some place → journal.tree.get? place ≠ some .directory

/-- Writing to the log touches its file only. -/
theorem Journal.HasRoom.alike_write (room : journal.HasRoom) (records : List Record) :
    Tree.AlikeBut (fun place => journal.file = some place) journal.tree (journal.write records).tree := by
  unfold Journal.write
  cases isFile : journal.file with
  | none => exact .refl _ _
  | some place =>
    dsimp only
    split
    case isTrue => exact .refl _ _
    case isFalse =>
      refine .append ?_ (room place isFile) _
      rfl

/-- Writing to the log leaves room for its file. -/
theorem Journal.HasRoom.write (room : journal.HasRoom) (records : List Record) : (journal.write records).HasRoom :=
  fun place isFile => mt ((room.alike_write records).directories place).mp (room place isFile)

/-- Opening the log touches its file only, and nothing if there is none. -/
theorem openJournal_eq_ok (opened : openJournal world arguments = .ok journal) :
    journal.file = logPlace? world arguments ∧ journal.HasRoom ∧
      Tree.AlikeBut (IsLog world arguments) world.place.tree journal.tree ∧
      (logPlace? world arguments = none → journal.tree = world.place.tree) := by
  unfold openJournal at opened
  unfold IsLog
  split at opened
  case h_1 none | h_2 none =>
    obtain rfl := Except.ok.inj opened
    simp [logPlace?, none, Tree.AlikeBut.refl, Journal.HasRoom]
  case h_3 name noEmpty named =>
    have place : logPlace? world arguments =
        (world.place.tree.openFile world.place.current (logPath world name)).toOption.map (·.1) := by
      rw [logPlace?, named, Option.bind_some, if_neg noEmpty]
    rw [place]
    cases result : world.place.tree.openFile world.place.current (logPath world name) with
    | ok found =>
      obtain ⟨place, content⟩ := found
      simp only [result] at opened
      obtain rfl := Except.ok.inj opened
      obtain ⟨-, noDirectory⟩ := Tree.openFile_eq_ok result
      have created : Tree.AlikeBut (fun other => some place = some other) world.place.tree
          (world.place.tree.put place (.file content)) := by
        refine .put ?_ noDirectory content
        rfl
      let fresh : Journal :=
        { style := styleOf world arguments
          file := some place
          tree := world.place.tree.put place (.file content) }
      have room : fresh.HasRoom := by
        intro other same
        obtain rfl := Option.some.inj same
        exact mt (created.directories place).mp noDirectory
      exact ⟨rfl, room.write _, created.trans (room.alike_write _), nofun⟩
    | error fault =>
      simp only [result] at opened
      split at opened
      case isTrue =>
        obtain rfl := Except.ok.inj opened
        exact ⟨rfl, by simp [Journal.HasRoom, Journal.write], .refl _ _, fun _ => rfl⟩
      case isFalse => cases opened

/-! ## The end of a command -/

/-- A fault never ends a command as a success does. -/
theorem exitCode_ne_zero (kind : FaultKind) : kind.exitCode ≠ 0 := by
  cases kind <;> decide

/-- An error that stops a command leaves the files alone and is no success. -/
theorem stopped_leaves (journal : Journal) (error : Error) :
    (stopped journal error).tree = journal.tree ∧ (stopped journal error).ending ≠ .finished 0 := by
  unfold stopped
  split
  case h_1 fault _ =>
    refine ⟨rfl, fun same => ?_⟩
    exact exitCode_ne_zero fault.kind (Ending.finished.inj same)
  case h_2 => exact ⟨rfl, nofun⟩

/-- A text that no file takes holds halves of pairs, and these are what is said about it. -/
theorem firstIn_of_unencodable {text : String} {failure : Failure}
    (refused : unencodable? world text = some failure) :
    ∃ position found, failure = .unencodable position found ∧ world.halves.FirstIn text position found := by
  obtain ⟨⟨position, found⟩, inText, rfl⟩ := Option.map_eq_some_iff.mp refused
  exact ⟨position, found, rfl, Halves.firstIn_of_inText? inText⟩

/-- A text that files take holds no halves of pairs. -/
theorem noneIn_of_encodable {text : String} (taken : unencodable? world text = none) : world.halves.NoneIn text :=
  Halves.inText?_eq_none.mp (Option.map_eq_none_iff.mp taken)

/-! ## The files behind a command -/

/-- A world with other files. -/
def World.seeing (world : World) (tree : Tree) : World :=
  { world with place := { world.place with tree } }

/-- The text that a command comes to in a world: the markup of the tree that it reads, under the options that
it makes. -/
def Makes (world : World) (arguments : Arguments) (text : String) : Prop :=
  ∃ options document, optionsOf world arguments = .ok options ∧ loadTree world arguments.input = .ok document ∧
    render options document.asDocument = .ok text

/-- What a text that is produced is made of. -/
theorem makes_of_produce {text : String} (produced : (produce world arguments).2 = .ok text) :
    Makes world arguments text := by
  unfold produce at produced
  split at produced
  case h_1 | h_2 => cases produced
  case h_3 options document made read =>
    exact ⟨options, document, made, read, mapError_eq_ok.mp produced⟩

/-- What a command that is to write to a file leaves behind. A command that fails leaves all files alone but
that of its log, and one that succeeds has written to the file exactly the text that it comes to, with the
files as they are once the log is open; that text holds no halves of pairs. A command whose text holds some
escapes with the first of them as its error, and has emptied the file. -/
inductive Leaves (world : World) (arguments : Arguments) (out : String) (outcome : Outcome) : Prop where
  | alone : outcome.ending ≠ .finished 0 →
      Tree.AlikeBut (IsLog world arguments) world.place.tree outcome.tree → Leaves world arguments out outcome
  | written {journal : Journal} {text : String} {target : Place} : outcome.ending = .finished 0 →
      outcome.output = "" → openJournal world arguments = .ok journal →
      Makes (world.seeing journal.tree) arguments text → world.halves.NoneIn text →
      world.place.tree.locate world.place.current (.ofString out) = .ok target →
      (¬ IsLog world arguments target → outcome.tree.get? target = some (.file text)) →
      Tree.AlikeBut (fun place => IsLog world arguments place ∨ place = target) world.place.tree outcome.tree →
      Leaves world arguments out outcome
  | emptied {journal : Journal} {text : String} {position : Nat} {found : List Nat} {target : Place} :
      outcome.ending = .escaped (.rendering (.unencodable position found)) →
      openJournal world arguments = .ok journal → Makes (world.seeing journal.tree) arguments text →
      world.halves.FirstIn text position found →
      world.place.tree.locate world.place.current (.ofString out) = .ok target →
      (¬ IsLog world arguments target → outcome.tree.get? target = some (.file "")) →
      Tree.AlikeBut (fun place => IsLog world arguments place ∨ place = target) world.place.tree outcome.tree →
      Leaves world arguments out outcome

/-- Handing a text on to a file. -/
theorem handOn_file {out text : String} (named : arguments.out = some out) (notEmpty : out ≠ "") :
    handOn world arguments journal text =
      let failure := unencodable? world text
      match journal.tree.write world.place.current (.ofString out) (if failure.isSome then "" else text) with
      | .ok tree =>
        match failure with
        | some failure => stopped { journal with tree } (.rendering failure)
        | none =>
          let journal := ({ journal with tree } : Journal).write
            [{ level := .info, source := .command, message := "Wrote " ++ out }]
          { ending := .finished 0, errors := journal.errors, tree := journal.tree }
      | .error fault =>
        stopped journal (if fault.reason.number?.isSome then .unwritable out else .file fault) := by
  unfold handOn
  split
  case h_1 none => cases named.symm.trans none
  case h_2 empty => exact absurd (Option.some.inj (named.symm.trans empty)) notEmpty
  case h_3 name _ found =>
    obtain rfl := Option.some.inj (named.symm.trans found)
    rfl

/-- A command that has come to its text leaves its files in one of three ways. -/
theorem leaves_handOn {out text : String} {opened : Journal} (named : arguments.out = some out)
    (notEmpty : out ≠ "") (log : openJournal world arguments = .ok opened)
    (sameLog : journal.file = logPlace? world arguments)
    (room : journal.HasRoom) (sofar : Tree.AlikeBut (IsLog world arguments) world.place.tree journal.tree)
    (makes : Makes (world.seeing opened.tree) arguments text) :
    Leaves world arguments out (handOn (world.seeing opened.tree) arguments journal text) := by
  rw [handOn_file named notEmpty]
  dsimp only
  split
  case h_2 fault _ =>
    obtain ⟨sameTree, fails⟩ := stopped_leaves journal
      (if fault.reason.number?.isSome then .unwritable out else .file fault)
    exact .alone fails (sameTree ▸ sofar)
  case h_1 tree wrote =>
    obtain ⟨target, located, noDirectory, rfl⟩ := Tree.write_eq_ok wrote
    have inWorld : world.place.tree.locate world.place.current (.ofString out) = .ok target :=
      sofar.locate_eq_ok.mp located
    have put (content : String) : Tree.AlikeBut (fun place => IsLog world arguments place ∨ place = target)
        world.place.tree (journal.tree.put target (.file content)) := by
      refine (sofar.weaken fun _ => .inl).trans (.put ?_ noDirectory content)
      exact .inr rfl
    have holds (content : String) : (journal.tree.put target (.file content)).get? target = some (.file content) :=
      journal.tree.get?_put_self (Tree.below_of_noDirectory noDirectory) _
    have sameHalves : (world.seeing opened.tree).halves = world.halves := (openJournal_eq_ok log).2.2.1.halves
    cases refused : unencodable? (world.seeing opened.tree) text with
    | some failure =>
      obtain ⟨position, found, rfl, first⟩ := firstIn_of_unencodable refused
      simp only [Option.isSome_some, if_true]
      exact .emptied rfl log makes (sameHalves ▸ first) inWorld (fun _ => holds "") (put "")
    | none =>
      simp only [Option.isSome_none, Bool.false_eq_true, if_false]
      let after : Journal := { journal with tree := journal.tree.put target (.file text) }
      have room : after.HasRoom := fun place isFile =>
        mt ((put text).directories place).mp (mt (sofar.directories place).mpr (room place isFile))
      have wrote := room.alike_write [{ level := .info, source := .command, message := "Wrote " ++ out }]
      have noHalves : world.halves.NoneIn text := sameHalves ▸ noneIn_of_encodable refused
      refine .written rfl rfl log makes noHalves inWorld (fun notLog => ?_) ((put text).trans (wrote.weaken ?_))
      · exact (wrote.elsewhere target (sameLog ▸ notLog)).trans (holds text)
      · exact fun place isFile => .inl (sameLog.symm.trans isFile)

/-- A command that is to write to a file touches no other file but its log, and the file only when it succeeds
or when its text holds halves of pairs, which no file takes. -/
theorem leaves_run {words : List String} {out : String} (accepted : Arguments.parse words = .ok arguments)
    (named : arguments.out = some out) (notEmpty : out ≠ "") : Leaves world arguments out (run world words) := by
  have ran : run world words = runWith world arguments := by simp [run, accepted]
  rw [ran]
  unfold runWith
  cases log : openJournal world arguments with
  | error error => exact .alone nofun (.refl _ _)
  | ok journal =>
    obtain ⟨sameLog, room, opened, -⟩ := openJournal_eq_ok log
    have logged (records : List Record) :
        Tree.AlikeBut (IsLog world arguments) world.place.tree (journal.write records).tree :=
      opened.trans ((room.alike_write records).weaken fun place isFile => sameLog.symm.trans isFile)
    dsimp only
    split
    case h_1 text produced =>
      exact leaves_handOn named notEmpty log sameLog (room.write _) (logged _) (makes_of_produce produced)
    case h_2 error _ =>
      obtain ⟨sameTree, fails⟩ :=
        stopped_leaves (journal.write (produce (world.seeing journal.tree) arguments).1) error
      exact .alone fails (sameTree ▸ logged _)

/-- A tree whose text is half a pair empties the file that its markup was to be written to. -/
theorem run_emptied :
    let words := ["tree.json", "-o", "out"]
    let tree : Tree :=
      { entries := [(["tree.json"], .file "\x7b\"node_type\": \"Text\", \"content\": \"\\ud800\"\x7d"),
          (["out"], .file "old")] }
    let outcome := run { place := { tree, current := [], home := ["home"] } } words
    (match outcome.ending with
      | .escaped (.rendering failure) => some failure
      | _ => none) = some (.unencodable 0 [0xD800]) ∧
      tree.get? ["out"] = some (.file "old") ∧ outcome.tree.get? ["out"] = some (.file "") := by
  decide +kernel

/-- A text is written to a new file, with a log beside it. -/
theorem leaves_run_with_log :
    let words := ["tree.json", "-o", "out", "--log-file", "log"]
    let arguments : Arguments := { input := "tree.json", out := some "out", logFile := some "log" }
    let tree : Tree :=
      { entries := [(["tree.json"], .file "\x7b\"node_type\": \"Text\", \"content\": \"a\"\x7d")] }
    let world : World := { place := { tree, current := [], home := ["home"] } }
    Arguments.parse words = .ok arguments ∧ arguments.out = some "out" ∧ "out" ≠ "" ∧
      Leaves world arguments "out" (run world words) ∧
      (run world words).tree.get? ["out"] = some (.file "a\n") := by
  intro words arguments tree world
  have accepted : Arguments.parse words = .ok arguments := by rfl
  have content : (run world words).tree.get? ["out"] = some (.file "a\n") := by decide +kernel
  exact ⟨accepted, rfl, by decide, leaves_run accepted rfl (by decide), content⟩

end Command

end OutlineWiki
