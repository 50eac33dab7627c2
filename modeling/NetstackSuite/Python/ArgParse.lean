import NetstackSuite.Python.Int

/-!
# Command lines

`argparse` as pytest uses it: no abbreviations, no option that takes more than one value. First every
argument `@name` gives way to the lines of the file `name` (`readArgsFromFiles`; pytest does so from 8.2
on), wherever it stands. Then the line is read token by token (`parseTokens`) against a table of options,
and every option given leaves an entry in the namespace, in the order of the line; a token that is no
option is an entry of its own. It may not start with a dash: the targets of a run come first, and pytest
refuses what is left over behind them with a dash in front, `--` itself included.

`Reads specs args entries` says what a stretch of tokens contributes whatever follows it.
It composes (`Reads.append`), so a line is understood from its pieces, and a token `--flag=value` is
read back as exactly `value` (`Reads.flagValue`).

Short flags glued together (`-vs`) are left out.
-/

namespace NetstackSuite.Python

/-- Source: Python `argparse`. Kind: D -/
def DASH : CodePoint := 0x2D

/-- Source: Python `argparse`. Kind: D -/
def EQUALS : CodePoint := 0x3D

/-- The command line is refused.
Source: pytest `UsageError`, Python `ArgumentParser.error`
Kind: D -/
def usageError : PyExc := .other "UsageError"

/-! ## Arguments from files -/

/-- Source: pytest `MyOptionParser` (`fromfile_prefix_chars`). Kind: D -/
def AT : CodePoint := 0x40

/-- The files that arguments can name: the lines of each, or what reading it raises. They may name one
another as deep as the recursion limit admits.
Source: Python `ArgumentParser._read_args_from_files`
Kind: D -/
structure ArgFiles where
  lines : PyStr → Except PyExc (List PyStr)
  nesting : Nat

/-- An argument, or the lines of the file that it names; a file that cannot be opened is a usage error.
Source: Python `ArgumentParser._read_args_from_files`
Kind: D -/
def readArg (lines : PyStr → Except PyExc (List PyStr)) : Nat → PyStr → Except PyExc (List PyStr)
  | 0, arg => if arg.head? = some AT then .error .recursionError else .ok [arg]
  | nesting + 1, arg =>
    if arg.head? = some AT then
      match lines (arg.drop 1) with
      | .ok args => (args.mapM (readArg lines nesting)).map List.flatten
      | .error e => .error (if e = osError then usageError else e)
    else .ok [arg]

/-- Source: Python `ArgumentParser._read_args_from_files`. Kind: D -/
def readArgsFromFiles (files : ArgFiles) (args : List PyStr) : Except PyExc (List PyStr) :=
  (args.mapM (readArg files.lines files.nesting)).map List.flatten

/-- An argument that names no file stays.
Source: Python `ArgumentParser._read_args_from_files`
Kind: L -/
lemma readArg_plain {lines : PyStr → Except PyExc (List PyStr)} (nesting : Nat) {arg : PyStr}
    (h : arg.head? ≠ some AT) : readArg lines nesting arg = .ok [arg] := by
  cases nesting with
  | zero => exact if_neg h
  | succ nesting => exact if_neg h

@[simp] lemma readArgsFromFiles_nil (files : ArgFiles) : readArgsFromFiles files [] = .ok [] := rfl

/-- One argument after another.
Source: Python `ArgumentParser._read_args_from_files`
Kind: L -/
lemma readArgsFromFiles_cons (files : ArgFiles) (arg : PyStr) (args : List PyStr) :
    readArgsFromFiles files (arg :: args) =
      (readArg files.lines files.nesting arg).bind fun new =>
        (readArgsFromFiles files args).map (new ++ ·) := by
  unfold readArgsFromFiles
  rw [List.mapM_cons]
  rcases readArg files.lines files.nesting arg with e | new
  · rfl
  · rcases args.mapM (readArg files.lines files.nesting) with e | rest <;> rfl

/-- One stretch after another.
Source: Python `ArgumentParser._read_args_from_files`
Kind: L -/
lemma readArgsFromFiles_append (files : ArgFiles) (args args' : List PyStr) :
    readArgsFromFiles files (args ++ args') =
      (readArgsFromFiles files args).bind fun new =>
        (readArgsFromFiles files args').map (new ++ ·) := by
  induction args with
  | nil =>
      rw [List.nil_append, readArgsFromFiles_nil]
      rcases readArgsFromFiles files args' with e | new <;> rfl
  | cons arg args ih =>
      rw [List.cons_append, readArgsFromFiles_cons, readArgsFromFiles_cons, ih]
      rcases readArg files.lines files.nesting arg with e | new
      · rfl
      · rcases readArgsFromFiles files args with e | rest
        · rfl
        · rcases readArgsFromFiles files args' with e | rest' <;>
            simp [Except.bind, Except.map]

/-- No argument names a file.
Source: Python `ArgumentParser._read_args_from_files`
Kind: D -/
def Plain (args : List PyStr) : Prop := ∀ arg ∈ args, arg.head? ≠ some AT

instance (args : List PyStr) : Decidable (Plain args) :=
  inferInstanceAs (Decidable (∀ arg ∈ args, arg.head? ≠ some AT))

lemma Plain.append {args args' : List PyStr} (h : Plain args) (h' : Plain args') : Plain (args ++ args') :=
  List.forall_mem_append.mpr ⟨h, h'⟩

/-- A token that starts with a dash names no file.
Source: Python `argparse`
Kind: L -/
lemma Plain.of_dash {args : List PyStr} (h : ∀ arg ∈ args, arg.head? = some DASH) : Plain args := by
  intro arg harg
  rw [h arg harg]
  decide

/-- Arguments that name no file stay.
Source: Python `ArgumentParser._read_args_from_files`
Kind: L -/
lemma readArgsFromFiles_plain (files : ArgFiles) {args : List PyStr} (h : Plain args) :
    readArgsFromFiles files args = .ok args := by
  induction args with
  | nil => rfl
  | cons arg args ih =>
      obtain ⟨harg, hargs⟩ := List.forall_mem_cons.mp h
      rw [readArgsFromFiles_cons, readArg_plain _ harg, ih hargs]
      rfl

/-! ## Options -/

/-- What an option expects after its flag.
Source: Python `argparse` `add_argument` (`type`, `choices`, `action`)
Kind: D -/
inductive ArgType where
  | text
  | int
  | choice (choices : List PyStr)
  /-- Nothing: the flag itself is the information. -/
  | present
  deriving DecidableEq

/-- The value an option was given.
Source: Python `argparse` `Namespace`
Kind: D -/
inductive ArgValue where
  | text (s : PyStr)
  | int (i : Int)
  | present
  deriving DecidableEq

namespace ArgValue

/-- Source: Python `argparse` `Namespace`. Kind: D -/
def asText : ArgValue → Option PyStr
  | .text s => some s
  | _ => none

/-- Source: Python `argparse` `Namespace`. Kind: D -/
def asInt : ArgValue → Option Int
  | .int i => some i
  | _ => none

end ArgValue

/-- An option of the table.
Source: Python `argparse` `add_argument`
Kind: D -/
structure OptionSpec where
  flag : PyStr
  type : ArgType
  deriving DecidableEq

/-- The value a text stands for; an option that takes none refuses any.
Source: Python `ArgumentParser._get_value`, `ArgumentParser._check_value`
Kind: D -/
def ArgType.read : ArgType → PyStr → Except PyExc ArgValue
  | .text, s => .ok (.text s)
  | .int, s =>
    match pyInt s with
    | .ok i => .ok (.int i)
    | .error _ => .error usageError
  | .choice choices, s => if s ∈ choices then .ok (.text s) else .error usageError
  | .present, _ => .error usageError

/-- An integer value was read by `int`.
Source: Python `ArgumentParser._get_value`
Kind: L -/
lemma ArgType.pyInt_of_read {type : ArgType} {s : PyStr} {i : Int}
    (h : type.read s = .ok (.int i)) : pyInt s = .ok i := by
  rcases type with _ | _ | choices | _
  · simp [ArgType.read] at h
  · simp only [ArgType.read] at h
    split at h
    next j hj =>
      obtain rfl : j = i := by simpa using h
      exact hj
    · simp at h
  · simp only [ArgType.read] at h
    split at h <;> simp at h
  · simp [ArgType.read] at h

/-- The option of a flag.
Source: Python `ArgumentParser._option_string_actions`
Kind: D -/
def lookup (specs : List OptionSpec) (flag : PyStr) : Option OptionSpec :=
  specs.find? fun spec => spec.flag == flag

/-! ## Tokens -/

/-- What a token of the command line is.
Source: Python `ArgumentParser._parse_optional`
Kind: D -/
inductive Token where
  | positional
  /-- `--`: everything after it is positional. -/
  | separator
  | option (spec : OptionSpec) (explicit : Option PyStr)
  | unknown
  deriving DecidableEq

/-- `-12`, `-.5`, `-1.5`: a negative number is no option.
Source: Python `ArgumentParser._negative_number_matcher`
Kind: D -/
def isNegativeNumber : PyStr → Bool
  | [] => false
  | c :: rest =>
    let body := if rest.getLast? = some LF then rest.dropLast else rest
    let digit (c : CodePoint) := (decimalDigit c).isSome
    let (whole, fraction) := body.span digit
    c = DASH &&
      match fraction with
      | [] => !whole.isEmpty
      | point :: places => point = 0x2E && !places.isEmpty && places.all digit

/-- Source: Python `ArgumentParser._parse_optional`, `ArgumentParser._get_option_tuples`. Kind: D -/
def classify (specs : List OptionSpec) (arg : PyStr) : Token :=
  if arg.head? ≠ some DASH ∨ arg = [DASH] then .positional
  else if arg = [DASH, DASH] then .separator
  else
    match lookup specs arg with
    | some spec => .option spec none
    | none =>
      match (partition EQUALS arg).bind fun (flag, value) => (lookup specs flag).map (·, value) with
      | some (spec, value) => .option spec (some value)
      | none =>
        match lookup specs (arg.take 2) with
        | some spec => .option spec (some (arg.drop 2))
        | none => if isNegativeNumber arg ∨ (0x20 : CodePoint) ∈ arg then .positional else .unknown

/-! ## The namespace -/

/-- The options given, in the order of the command line.
Source: Python `argparse` `Namespace`
Kind: D -/
abbrev Namespace := List (PyStr × ArgValue)

/-- Where pytest collects what is no option.
Source: pytest `FILE_OR_DIR`
Kind: D -/
def FILE_OR_DIR : PyStr := text "file_or_dir"

/-- A positional token.
Source: Python `argparse`
Kind: D -/
def positional (arg : PyStr) : PyStr × ArgValue := (FILE_OR_DIR, .text arg)

/-- Reads the tokens of a command line whose targets come first.
Source: Python `ArgumentParser._parse_known_args`, pytest `MyOptionParser.parse_args`
Kind: D -/
def parseTokens (specs : List OptionSpec) : List PyStr → Except PyExc Namespace
  | [] => .ok []
  | arg :: rest =>
    match classify specs arg with
    | .positional =>
      if arg.head? = some DASH then .error usageError
      else (parseTokens specs rest).map (positional arg :: ·)
    | .separator => .error usageError
    | .unknown => .error usageError
    | .option spec (some value) =>
      match spec.type.read value with
      | .ok value => (parseTokens specs rest).map ((spec.flag, value) :: ·)
      | .error e => .error e
    | .option spec none =>
      if spec.type = .present then (parseTokens specs rest).map ((spec.flag, .present) :: ·)
      else
        match rest with
        | [] => .error usageError
        | value :: rest =>
          -- a token that looks like an option is never the value of another
          if classify specs value ≠ .positional then .error usageError
          else
            match spec.type.read value with
            | .ok value => (parseTokens specs rest).map ((spec.flag, value) :: ·)
            | .error e => .error e

/-- Reads a command line.
Source: Python `ArgumentParser.parse_args`
Kind: D -/
def parseArgs (files : ArgFiles) (specs : List OptionSpec) (args : List PyStr) : Except PyExc Namespace :=
  (readArgsFromFiles files args).bind (parseTokens specs)

/-- The values a flag was given.
Source: Python `argparse` `Namespace`
Kind: D -/
def valuesOf (ns : Namespace) (flag : PyStr) : List ArgValue :=
  ns.filterMap fun (f, value) => if f = flag then some value else none

@[simp] lemma valuesOf_nil (flag : PyStr) : valuesOf [] flag = [] := rfl

@[simp] lemma valuesOf_append (ns ms : Namespace) (flag : PyStr) :
    valuesOf (ns ++ ms) flag = valuesOf ns flag ++ valuesOf ms flag :=
  List.filterMap_append

lemma valuesOf_cons (flag' : PyStr) (value : ArgValue) (ns : Namespace) (flag : PyStr) :
    valuesOf ((flag', value) :: ns) flag =
      if flag' = flag then value :: valuesOf ns flag else valuesOf ns flag := by
  unfold valuesOf
  rw [List.filterMap_cons]
  split <;> simp_all

/-- Entries of other flags do not count.
Source: Python `argparse` `Namespace`
Kind: L -/
lemma valuesOf_eq_nil {ns : Namespace} {flag : PyStr} (h : ∀ entry ∈ ns, entry.1 ≠ flag) :
    valuesOf ns flag = [] := by
  unfold valuesOf
  rw [List.filterMap_eq_nil_iff]
  intro entry hentry
  exact if_neg (h entry hentry)

/-- A token that does not start with a dash is positional.
Source: Python `argparse`
Kind: L -/
lemma classify_positional {specs : List OptionSpec} {arg : PyStr} (h : arg.head? ≠ some DASH) :
    classify specs arg = .positional := by
  unfold classify
  rw [if_pos (Or.inl h)]

/-! ## What a stretch of a command line contributes -/

/-- Whatever follows, `args` contributes `entries`.
Source: none: infrastructure
Kind: D -/
def Reads (specs : List OptionSpec) (args : List PyStr) (entries : Namespace) : Prop :=
  ∀ rest, parseTokens specs (args ++ rest) = (parseTokens specs rest).map (entries ++ ·)

namespace Reads

variable {specs : List OptionSpec}

lemma nil : Reads specs [] [] := by
  intro rest
  rcases h : parseTokens specs rest with e | ns <;> simp [h, Except.map]

/-- **Stretches compose.**
Source: none: infrastructure
Kind: P -/
theorem append {args args' : List PyStr} {entries entries' : Namespace}
    (h : Reads specs args entries) (h' : Reads specs args' entries') :
    Reads specs (args ++ args') (entries ++ entries') := by
  intro rest
  rw [List.append_assoc, h, h']
  rcases parseTokens specs rest with e | ns
  · rfl
  · simp [Except.map]

/-- The whole line.
Source: none: infrastructure
Kind: L -/
lemma parseTokens_eq {args : List PyStr} {entries : Namespace} (h : Reads specs args entries) :
    parseTokens specs args = .ok entries := by
  have hall := h []
  rw [List.append_nil] at hall
  rw [hall, parseTokens]
  simp [Except.map]

/-- One token after another, each contributing one entry.
Source: none: infrastructure
Kind: L -/
lemma map {α : Type} (arg : α → PyStr) (entry : α → PyStr × ArgValue) (xs : List α)
    (h : ∀ x ∈ xs, Reads specs [arg x] [entry x]) : Reads specs (xs.map arg) (xs.map entry) := by
  induction xs with
  | nil => exact nil
  | cons x xs ih =>
      have hrest := ih fun y hy => h y (List.mem_cons_of_mem x hy)
      exact (h x List.mem_cons_self).append hrest

/-- A positional token.
Source: Python `argparse`
Kind: L -/
lemma of_positional {arg : PyStr} (h : arg.head? ≠ some DASH) : Reads specs [arg] [positional arg] := by
  intro rest
  rw [List.singleton_append, parseTokens, classify_positional h]
  simp only [if_neg h]
  rfl

/-- A flag that takes nothing.
Source: Python `argparse`
Kind: L -/
lemma of_present {arg : PyStr} {spec : OptionSpec} (h : classify specs arg = .option spec none)
    (htype : spec.type = .present) : Reads specs [arg] [(spec.flag, .present)] := by
  intro rest
  rw [List.singleton_append, parseTokens, h]
  simp only [if_pos htype]
  rfl

/-- A flag and its value as two tokens.
Source: Python `argparse`
Kind: L -/
lemma of_two {arg value : PyStr} {spec : OptionSpec} {v : ArgValue}
    (h : classify specs arg = .option spec none) (htype : spec.type ≠ .present)
    (hvalue : classify specs value = .positional) (hread : spec.type.read value = .ok v) :
    Reads specs [arg, value] [(spec.flag, v)] := by
  intro rest
  rw [List.cons_append, List.singleton_append, parseTokens, h]
  simp only [if_neg htype, hvalue, ne_eq, not_true_eq_false, if_false, hread]
  rfl

end Reads

/-- Whatever follows, a line with `args` is refused.
Source: none: infrastructure
Kind: D -/
def Refuses (specs : List OptionSpec) (args : List PyStr) : Prop :=
  ∀ rest, parseTokens specs (args ++ rest) = .error usageError

namespace Refuses

variable {specs : List OptionSpec}

/-- A flag whose value looks like an option.
Source: Python `argparse`
Kind: L -/
lemma of_two {arg value : PyStr} {spec : OptionSpec} (h : classify specs arg = .option spec none)
    (htype : spec.type ≠ .present) (hvalue : classify specs value ≠ .positional) :
    Refuses specs [arg, value] := by
  intro rest
  rw [List.cons_append, List.singleton_append, parseTokens, h]
  simp only [if_neg htype, hvalue, ne_eq, not_false_eq_true, if_true]

/-- Nothing in front of the flag makes up for it: an option in front takes the flag for its value no more
than the flag does.
Source: Python `argparse`
Kind: L -/
lemma behind {arg value : PyStr} {spec : OptionSpec} (h : classify specs arg = .option spec none)
    (hvalue : Refuses specs [arg, value]) (rest : List PyStr) :
    ∀ before : List PyStr, ∃ e, parseTokens specs (before ++ arg :: value :: rest) = .error e
  | [] => ⟨usageError, hvalue rest⟩
  | first :: before => by
      obtain ⟨e, hrefused⟩ := behind h hvalue rest before
      rw [List.cons_append, parseTokens]
      rcases classify specs first with _ | _ | ⟨option, _ | explicit⟩ | _
      case positional =>
        dsimp only
        split
        · exact ⟨usageError, rfl⟩
        · exact ⟨e, by rw [hrefused]; rfl⟩
      case separator | unknown => exact ⟨usageError, rfl⟩
      case option.some =>
        dsimp only
        rcases option.type.read explicit with e' | v
        · exact ⟨e', rfl⟩
        · exact ⟨e, by rw [hrefused]; rfl⟩
      case option.none =>
        dsimp only
        split
        · exact ⟨e, by rw [hrefused]; rfl⟩
        · cases before with
          | nil => exact ⟨usageError, by simp [h]⟩
          | cons second before =>
              obtain ⟨e', hbehind⟩ := behind h hvalue rest before
              rw [List.cons_append]
              dsimp only
              split
              · exact ⟨usageError, rfl⟩
              · rcases option.type.read second with e'' | v
                · exact ⟨e'', rfl⟩
                · exact ⟨e', by rw [hbehind]; rfl⟩

end Refuses

/-! ## `--flag=value` -/

/-- A flag of the long form: two dashes, a name, and no equals sign in it.
Source: Python `argparse`
Kind: D -/
def IsLongFlag (flag : PyStr) : Prop :=
  flag.take 2 = [DASH, DASH] ∧ EQUALS ∉ flag

instance (flag : PyStr) : Decidable (IsLongFlag flag) :=
  inferInstanceAs (Decidable (_ ∧ _))

/-- **`--flag=value` is read as that flag with exactly that value**, whatever characters the value
has, as long as no registered flag has an equals sign in it.
Source: Python `argparse`
Kind: P -/
theorem classify_flagValue {specs : List OptionSpec} {flag : PyStr} {spec : OptionSpec}
    (hspec : lookup specs flag = some spec) (hflag : IsLongFlag flag)
    (hspecs : ∀ spec ∈ specs, EQUALS ∉ spec.flag) (value : PyStr) :
    classify specs (flag ++ EQUALS :: value) = .option spec (some value) := by
  obtain ⟨hdashes, hequals⟩ := hflag
  obtain ⟨name, rfl⟩ : ∃ name, flag = DASH :: DASH :: name := by
    refine ⟨flag.drop 2, ?_⟩
    rw [← List.take_append_drop 2 flag, hdashes]
    rfl
  have hexact : lookup specs (DASH :: DASH :: name ++ EQUALS :: value) = none := by
    unfold lookup
    rw [List.find?_eq_none]
    intro other hother hsame
    have hno := hspecs other hother
    rw [beq_iff_eq.mp hsame] at hno
    exact hno (by simp)
  have hpositional : ¬ ((DASH :: DASH :: name ++ EQUALS :: value).head? ≠ some DASH ∨
      DASH :: DASH :: name ++ EQUALS :: value = [DASH]) := by
    simp
  have hseparator : ¬ DASH :: DASH :: name ++ EQUALS :: value = [DASH, DASH] := by
    simp
  unfold classify
  rw [if_neg hpositional, if_neg hseparator, hexact, partition_append hequals]
  simp only [Option.bind_some, hspec, Option.map_some]

/-- A flag standing alone.
Source: Python `argparse`
Kind: L -/
lemma classify_flag {specs : List OptionSpec} {flag : PyStr} {spec : OptionSpec}
    (hspec : lookup specs flag = some spec) (hdash : flag.head? = some DASH)
    (hlong : flag ≠ [DASH] ∧ flag ≠ [DASH, DASH]) : classify specs flag = .option spec none := by
  unfold classify
  rw [if_neg (by simp [hdash, hlong.1]), if_neg hlong.2, hspec]

namespace Reads

/-- A token `--flag=value`.
Source: Python `argparse`
Kind: L -/
lemma flagValue {specs : List OptionSpec} {flag value : PyStr} {spec : OptionSpec} {v : ArgValue}
    (hspec : lookup specs flag = some spec) (hflag : IsLongFlag flag)
    (hspecs : ∀ spec ∈ specs, EQUALS ∉ spec.flag) (hread : spec.type.read value = .ok v) :
    Reads specs [flag ++ EQUALS :: value] [(spec.flag, v)] := by
  intro rest
  rw [List.singleton_append, parseTokens, classify_flagValue hspec hflag hspecs]
  simp only [hread]
  rfl

end Reads

end NetstackSuite.Python
