import Repath.Command.Arguments
import Mathlib.Data.List.Basic

namespace Repath

namespace Arguments

def Flag.name : Flag → String
  | root => "root"
  | extension => "ext"
  | ruleFile => "rules"
  | dryRun => "dry-run"
  | init => "init"
  | force => "force"
  | verbose => "verbose"

def Flag.word (flag : Flag) : String := "--" ++ flag.name

/-- The options that are given or not, and of which the arguments tell. -/
def Flag.IsSwitch (flag : Flag) : Prop := flag = .dryRun ∨ flag = .init ∨ flag = .force

def isSet (a : Arguments) : Flag → Bool
  | .dryRun => a.dryRun
  | .init => a.init
  | .force => a.force
  | _ => false

variable {level : Level} {given given' : List Flag} {a a' : Arguments} {name word : String}
  {flag switch : Flag} {cs : List Char} {words : List String} {attached : Option String}

def dry (a : Arguments) : Arguments := { a with dryRun := true }

@[simp] theorem init_dry (a : Arguments) : a.dry.init = a.init := rfl

@[simp] theorem force_dry (a : Arguments) : a.dry.force = a.force := rfl

@[simp] theorem isSet_action (a : Arguments) (action : Action) (flag : Flag) :
    { a with action }.isSet flag = a.isSet flag := by
  cases flag <;> rfl

theorem isSet_set (a : Arguments) (value : String) (flag : Flag) (h : switch.IsSwitch) :
    (a.set value flag).isSet switch = true ↔ a.isSet switch = true ∨ flag = switch := by
  obtain rfl | rfl | rfl := h <;> cases flag <;> simp [set, isSet]

theorem ne_verbose (hswitch : switch.IsSwitch) : Flag.verbose ≠ switch := by
  rintro rfl
  simp [Flag.IsSwitch] at hswitch

theorem ne_of_takesValue (h : flag.takesValue) (hswitch : switch.IsSwitch) : flag ≠ switch := by
  rintro rfl
  obtain rfl | rfl | rfl := hswitch <;> cases h

theorem name_ne_nil (flag : Flag) : flag.name.toList ≠ [] := by
  cases flag <;> decide

theorem toList_word (flag : Flag) : flag.word.toList = '-' :: '-' :: flag.name.toList := by
  rw [Flag.word, String.toList_append]
  rfl

theorem word_root : Flag.root.word = "--root" := by decide

theorem word_dryRun : Flag.dryRun.word = "--dry-run" := by decide

theorem word_init : Flag.init.word = "--init" := by decide

theorem word_force : Flag.force.word = "--force" := by decide

theorem looksLikeOption_word (flag : Flag) : looksLikeOption flag.word = true := by
  rw [looksLikeOption, toList_word]
  rfl

theorem ne_word (h : ∀ option, option ≠ [] → word.toList ≠ '-' :: '-' :: option) :
    flag.word ≠ word := by
  rintro rfl
  exact h flag.name.toList (name_ne_nil flag) (toList_word flag)

theorem splitValue_none (h : splitValue cs = (name, none)) : cs = name.toList := by
  rw [splitValue] at h
  split at h
  · cases h
  · cases h
    exact String.toList_ofList.symm

theorem splitValue_name (flag : Flag) : splitValue flag.name.toList = (flag.name, none) := by
  cases flag <;> decide

theorem flag?_eq_some (h : flag? level name = some flag) : name = flag.name := by
  unfold flag? at h
  cases flag <;> split at h <;> simp_all [Flag.name]

theorem name_injective : Function.Injective Flag.name := by
  intro flag other h
  cases flag <;> cases other <;> simp_all [Flag.name]

theorem word_eq_iff (hword : word.toList = '-' :: '-' :: cs)
    (hs : splitValue cs = (name, attached)) (h : flag? level name = some flag) :
    switch.word = word ↔ attached = none ∧ flag = switch := by
  obtain rfl := flag?_eq_some h
  rw [← String.toList_inj, hword, toList_word]
  constructor
  · intro heq
    obtain rfl : switch.name.toList = cs := by simpa using heq
    rw [splitValue_name] at hs
    obtain ⟨hname, rfl⟩ := Prod.mk.inj hs
    exact ⟨rfl, name_injective hname.symm⟩
  · rintro ⟨rfl, rfl⟩
    rw [splitValue_none hs]

theorem read_word (hflag : flag? level flag.name = some flag) (given : List Flag) (a : Arguments)
    (words : List String) :
    read level given a (flag.word :: words) =
      if given.contains flag then .refused
      else if flag.takesValue then
        match words with
        | value :: rest =>
          if value.isEmpty || looksLikeOption value then .refused
          else read level (flag :: given) (a.set value flag) rest
        | [] => .refused
      else read level (flag :: given) (a.set "" flag) words := by
  obtain ⟨c, cs, hcs⟩ := List.exists_cons_of_ne_nil (name_ne_nil flag)
  have hsplit := splitValue_name flag
  rw [hcs] at hsplit
  rw [read]
  simp only [toList_word, hcs, hsplit, hflag, Option.isSome_none, Bool.false_eq_true, if_false]
  cases words <;> rfl

theorem read_switch (hflag : flag? level flag.name = some flag) (htakes : flag.takesValue = false)
    (given : List Flag) (a : Arguments) (words : List String) :
    read level given a (flag.word :: words) = .refused ∨
      read level given a (flag.word :: words) =
        read level (flag :: given) (a.set "" flag) words := by
  rw [read_word hflag]
  by_cases hgiven : given.contains flag
  · exact .inl (if_pos hgiven)
  · exact .inr (by rw [if_neg hgiven, if_neg (by simp [htakes])])

theorem read_valued (hflag : flag? level flag.name = some flag) (htakes : flag.takesValue = true)
    (given : List Flag) (a : Arguments) (value : String) (words : List String) :
    read level given a (flag.word :: value :: words) = .refused ∨
      read level given a (flag.word :: value :: words) =
        read level (flag :: given) (a.set value flag) words := by
  rw [read_word hflag]
  by_cases hgiven : given.contains flag
  · exact .inl (if_pos hgiven)
  · rw [if_neg hgiven, if_pos htakes]
    by_cases hvalue : value.isEmpty || looksLikeOption value
    · exact .inl (if_pos hvalue)
    · exact .inr (if_neg hvalue)

theorem read_short (level : Level) (given : List Flag) (a : Arguments) (words : List String) :
    read level given a ("-v" :: words) = read level given a (Flag.verbose.word :: words) := by
  have hword : "-v".toList = ['-', 'v'] := by decide
  have hflag : flag? level Flag.verbose.name = some .verbose := rfl
  rw [read_word hflag]
  by_cases hgiven : given.contains Flag.verbose
  · have hbundle : bundle level given ['v'] = none := if_pos hgiven
    rw [if_pos hgiven]
    simp [read, hword, hbundle]
  · have hbundle : bundle level given ['v'] = some (.verbose :: given, false) := if_neg hgiven
    rw [if_neg hgiven]
    simp [read, hword, hbundle, Flag.takesValue]

end Arguments

def Request.dry : Request → Request
  | .run a => .run a.dry
  | request => request

namespace Arguments

variable {level : Level} {given given' : List Flag} {a a' : Arguments} {flag switch : Flag}
  {cs : List Char} {words : List String}

/-- The same options are given, but for that of a dry run. -/
def SameButDry (given given' : List Flag) : Prop :=
  ∀ flag, flag ≠ .dryRun → (flag ∈ given' ↔ flag ∈ given)

theorem SameButDry.cons (h : SameButDry given given') (flag : Flag) :
    SameButDry (flag :: given) (flag :: given') := by
  intro other hother
  rw [List.mem_cons, List.mem_cons, h other hother]

/-- A switch is set if its word is given, and not otherwise. -/
theorem isSet_read (hswitch : switch.IsSwitch) (h : read level given a words = .run a') :
    a'.isSet switch = true ↔ a.isSet switch = true ∨ switch.word ∈ words := by
  fun_induction read level given a words
  case case2 a _ =>
    cases h
    simp
  case case3 a word rest hword hrest =>
    cases h
    have hne : switch.word ≠ word := ne_word (by simp [hword])
    simp_all
  case case9 hflag _ htakes value rest _ hsplit ih =>
    rw [ih h, isSet_set _ _ _ hswitch, List.mem_cons, word_eq_iff ‹_› hsplit hflag]
    simp [ne_of_takesValue htakes hswitch]
  case case11 hflag _ htakes value rest hvalue hsplit ih =>
    have hne : switch.word ≠ value := by
      rintro rfl
      simp [looksLikeOption_word] at hvalue
    rw [ih h, isSet_set _ _ _ hswitch, List.mem_cons, List.mem_cons, word_eq_iff ‹_› hsplit hflag]
    simp [ne_of_takesValue htakes hswitch, hne]
  case case14 word rest option _ hword name attached hsplit flag hflag _ _ hattached ih =>
    rw [ih h, isSet_set _ _ _ hswitch, List.mem_cons, word_eq_iff hword hsplit hflag]
    simp_all [or_assoc]
  case case17 word rest c cs _ hc hword out hbundle ih =>
    have hne : switch.word ≠ word := ne_word (by simp_all)
    rw [ih h, isSet_set _ _ _ hswitch, List.mem_cons, or_iff_right hne,
      or_iff_left (ne_verbose hswitch)]
  case case18 word rest level action hsub _ hlong _ ih =>
    have hne : switch.word ≠ word := ne_word fun option _ => hlong option
    rw [ih h, List.mem_cons, or_iff_right hne, isSet_action]
  all_goals cases h

theorem extension_set (a : Arguments) {value : String} (ha : a.extension ≠ some "")
    (h : flag.takesValue → value ≠ "") : (a.set value flag).extension ≠ some "" := by
  cases flag <;> simp_all [set, Flag.takesValue]

theorem extension_read (ha : a.extension ≠ some "") (h : read level given a words = .run a') :
    a'.extension ≠ some "" := by
  fun_induction read level given a words
  case case2 => exact (Request.run.inj h) ▸ ha
  case case3 => exact (Request.run.inj h) ▸ ha
  case case9 hvalue _ ih => exact ih (extension_set _ ha fun _ => by simpa using hvalue) h
  case case11 hvalue _ ih => exact ih (extension_set _ ha fun _ => by simp_all) h
  case case14 hflag _ ih => exact ih (extension_set _ ha fun htakes => absurd htakes hflag) h
  case case17 ih => exact ih ha h
  case case18 ih => exact ih ha h
  all_goals cases h

end Arguments

theorem Request.switches_ofWords {words : List String} {a : Arguments}
    (h : Request.ofWords words = .run a) :
    (a.dryRun = true ↔ "--dry-run" ∈ words) ∧ (a.init = true ↔ "--init" ∈ words) ∧
      (a.force = true ↔ "--force" ∈ words) := by
  rw [← Arguments.word_dryRun, ← Arguments.word_init, ← Arguments.word_force]
  have hset {switch : Arguments.Flag} (hswitch : switch.IsSwitch) :
      a.isSet switch = true ↔ Arguments.initial.isSet switch = true ∨ switch.word ∈ words :=
    Arguments.isSet_read hswitch h
  refine ⟨?_, ?_, ?_⟩
  · exact (hset (.inl rfl)).trans (or_iff_right Bool.false_ne_true)
  · exact (hset (.inr (.inl rfl))).trans (or_iff_right Bool.false_ne_true)
  · exact (hset (.inr (.inr rfl))).trans (or_iff_right Bool.false_ne_true)

theorem Request.extension_ofWords {words : List String} {a : Arguments}
    (h : Request.ofWords words = .run a) : a.extension ≠ some "" := by
  apply Arguments.extension_read (a := Arguments.initial) _ h
  simp [Arguments.initial]

end Repath
