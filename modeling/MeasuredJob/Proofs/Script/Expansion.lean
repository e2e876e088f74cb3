import MeasuredJob.Proofs.Script.HereDocument

/-!
# Expanded commands

What a shell makes of a text, line by line.  A line that assigns a value is remembered.  In any other
line the variables, and the commands whose output is asked for, are replaced, and what comes out is
split into words.  Between double quotes a replaced text stays in one word, and outside of them its
blanks split it.  So a path with a blank is one path or several, depending on its quotes.

Patterns are not matched against files, and the words of control flow are read like others.  A text
with a character that does more than this is refused.
-/

namespace MeasuredJob
namespace Shell

/-! ## Pieces of a line -/

inductive Part where
  | char (c : Char)
  | value (name : String)
  | output (command : String)
deriving DecidableEq, Repr

structure Piece where
  part : Part
  /-- The piece is between double quotes. -/
  quoted : Bool
deriving DecidableEq, Repr

/-- What has begun with a dollar and is not complete. -/
inductive Opened where
  | nothing
  | dollar
  /-- Characters of a name, in reverse. -/
  | name (seen : List Char)
  | braces (seen : List Char)
  | parentheses (seen : List Char)
deriving DecidableEq, Repr

/-- Where a reader stands in a line. -/
structure Reader where
  quoted : Bool := false
  opened : Opened := .nothing
deriving DecidableEq, Repr

def isNameChar (c : Char) : Bool :=
  c.isAlphanum || c == '_'

/-- The characters that are not read. -/
def refused (quoted : Bool) : List Char :=
  if quoted then ['\\', '\x60'] else ['\\', '\x60', '\'', '<', '>', '(', ')']

namespace Reader

def stepChar (quoted : Bool) (c : Char) : Option (List Piece × Reader) :=
  if c = '"' then some ([], { quoted := !quoted })
  else if c = '$' then some ([], { quoted, opened := .dollar })
  else if c ∈ refused quoted then none
  else some ([⟨.char c, quoted⟩], { quoted })

/-- Read one character: the pieces that it completes, and where the reader stands behind it. -/
def step : Reader → Char → Option (List Piece × Reader)
  | ⟨quoted, .nothing⟩, c => stepChar quoted c
  | ⟨quoted, .dollar⟩, c =>
    if c = '\x7b' then some ([], ⟨quoted, .braces []⟩)
    else if c = '(' then some ([], ⟨quoted, .parentheses []⟩)
    else if isNameChar c then some ([], ⟨quoted, .name [c]⟩)
    else none
  | ⟨quoted, .name seen⟩, c =>
    if isNameChar c then some ([], ⟨quoted, .name (c :: seen)⟩)
    else (stepChar quoted c).map
      (Prod.map (⟨.value (String.ofList seen.reverse), quoted⟩ :: ·) id)
  | ⟨quoted, .braces seen⟩, c =>
    if c = '\x7d' then some ([⟨.value (String.ofList seen.reverse), quoted⟩], { quoted })
    else if isNameChar c then some ([], ⟨quoted, .braces (c :: seen)⟩)
    else none
  | ⟨quoted, .parentheses seen⟩, c =>
    if c = ')' then some ([⟨.output (String.ofList seen.reverse), quoted⟩], { quoted })
    else some ([], ⟨quoted, .parentheses (c :: seen)⟩)

/-- The pieces that the end of the line completes. -/
def finish : Reader → Option (List Piece)
  | ⟨false, .nothing⟩ => some []
  | ⟨false, .name seen⟩ => some [⟨.value (String.ofList seen.reverse), false⟩]
  | _ => none

def pieces? : Reader → List Char → Option (List Piece)
  | r, [] => r.finish
  | r, c :: cs => (r.step c).bind fun read => (pieces? read.2 cs).map (read.1 ++ ·)

theorem pieces?_cons {r r' : Reader} {c : Char} {completed : List Piece}
    (h : r.step c = some (completed, r')) (cs : List Char) :
    r.pieces? (c :: cs) = (r'.pieces? cs).map (completed ++ ·) := by
  rw [pieces?, h, Option.bind_some]

end Reader

/-! ## Words of a line -/

/-- A character of an expanded line, or what ends a word or a command. -/
inductive Symbol where
  | char (c : Char)
  | gap
  | stop
deriving DecidableEq, Repr

/-- The blanks at which a line is split. -/
def isGap (c : Char) : Bool :=
  c == ' ' || c == '\t' || c == '\n'

namespace Symbol

/-- A character that has come in by a replacement outside of double quotes. -/
def ofExpanded (c : Char) : Symbol :=
  if isGap c then .gap else .char c

def ofChar (c : Char) : Symbol :=
  if c ∈ ['|', '&', ';'] then .stop else ofExpanded c

end Symbol

/-- What is known to a shell. -/
structure Env where
  value : String → List Char
  /-- What a command prints, without the line breaks at its end. -/
  output : String → String

def Env.set (env : Env) (name : String) (text : List Char) : Env :=
  { env with value := fun n => if n = name then text else env.value n }

def Part.text (env : Env) : Part → List Char
  | .char c => [c]
  | .value name => env.value name
  | .output command => (env.output command).toList

def Piece.symbols (env : Env) : Piece → List Symbol
  | ⟨.char c, false⟩ => [.ofChar c]
  | ⟨part, false⟩ => (part.text env).map .ofExpanded
  | ⟨part, true⟩ => (part.text env).map .char

/-- The character is not part of a word as it stands. -/
def Piece.endsWord : Piece → Bool
  | ⟨.char c, false⟩ => Symbol.ofChar c != .char c
  | _ => false

/-- The word that ends here.  An empty word is dropped. -/
def endWord (seen : List Char) : List String :=
  if seen = [] then [] else [String.ofList seen]

def endCommand (words : List String) : List (List String) :=
  if words = [] then [] else [words]

/-- The commands that go on with the symbols.  The first one has begun with some words, and with
some characters of the next word. -/
def split (words : List String) (seen : List Char) : List Symbol → List (List String)
  | [] => endCommand (words ++ endWord seen)
  | .char c :: symbols => split words (seen ++ [c]) symbols
  | .gap :: symbols => split (words ++ endWord seen) [] symbols
  | .stop :: symbols => endCommand (words ++ endWord seen) ++ split [] [] symbols

def commandsOf (env : Env) (pieces : List Piece) : List (List String) :=
  split [] [] (pieces.flatMap (Piece.symbols env))

/-! ## Lines of a text -/

/-- The name and the text of a line that assigns a value. -/
def assignment? (l : List Char) : Option (String × List Char) :=
  match l.takeWhile isNameChar, l.dropWhile isNameChar with
  | c :: name, '=' :: text => some (String.ofList (c :: name), text)
  | _, _ => none

/-- The assigned value, which is one word. -/
def assigned? (env : Env) (text : List Char) : Option (List Char) :=
  (Reader.pieces? {} text).bind fun pieces =>
    if pieces.any Piece.endsWord then none else some (pieces.flatMap fun p => p.part.text env)

/-- The commands of the lines.  Comments are passed over. -/
def runLines? : Env → List (List Char) → Option (List (List String))
  | _, [] => some []
  | env, l :: ls =>
    if l.head? = some '#' then runLines? env ls
    else match assignment? l with
      | some (name, text) =>
        (assigned? env text).bind fun value => runLines? (env.set name value) ls
      | none =>
        (Reader.pieces? {} l).bind fun pieces => (runLines? env ls).map (commandsOf env pieces ++ ·)

/-- The commands of a text, each as its words, where `output` is what other commands print. -/
def commands? (output : String → String) (s : String) : Option (List (List String)) :=
  runLines? { value := fun _ => [], output } ((readLines s).map String.toList)

/-! ## What commands are about -/

/-- The path of a copy of `source` that is made in, or as, the directory `target`. -/
def landing (target source : String) : String :=
  let own := (source.toList.reverse.takeWhile (· != '/')).reverse
  -- A pattern for all files of a directory puts them into the target.
  if own = ['*'] then target
  else if target.toList.getLast? = some '/' then target ++ String.ofList own
  else target ++ "/" ++ String.ofList own

/-- What a command copies, and where it copies it to. -/
def copiesOf : List String → List (String × String)
  | name :: option :: paths =>
    if name = "cp" ∧ option = "-R" then
      paths.dropLast.map fun source => (source, landing (paths.getLastD "") source)
    else []
  | _ => []

/-- The condition on a path that a command tests. -/
def testOf? (command : List String) : Option (String × String) :=
  match command.dropWhile (· == "until") with
  | [opening, condition, path, closing] =>
    if opening = "[" ∧ closing = "]" then some (condition, path) else none
  | _ => none

/-! ## Texts between double quotes -/

/-- The characters that double quotes do not protect, those of patterns, and the line break. -/
def specials : List Char := ['"', '$', '\\', '\x60', '*', '?', '[', '\n']

/-- Between double quotes a shell takes the text as it is, and outside of them it is no pattern. -/
def Literal (s : String) : Prop :=
  ∀ c ∈ s.toList, c ∉ specials

/-- The text has no blank at which a shell splits it. -/
def Unsplit (s : String) : Prop :=
  ∀ c ∈ s.toList, isGap c = false

instance (s : String) : Decidable (Literal s) :=
  List.decidableBAll (· ∉ specials) s.toList

instance (s : String) : Decidable (Unsplit s) :=
  List.decidableBAll (isGap · = false) s.toList

theorem Literal.append {s t : String} (hs : Literal s) (ht : Literal t) : Literal (s ++ t) := by
  intro c hc
  rw [String.toList_append, List.mem_append] at hc
  exact hc.elim (hs c) (ht c)

theorem Literal.lineBreak_notMem {s : String} (h : Literal s) : '\n' ∉ s.toList :=
  fun hmem => h '\n' hmem (by decide)

theorem step_of_literal {c : Char} (h : c ∉ specials) :
    Reader.step { quoted := true } c = some ([⟨.char c, true⟩], { quoted := true }) := by
  simp only [specials, List.mem_cons, List.not_mem_nil, or_false, not_or] at h
  have hread : c ∉ refused true := by
    simp [refused, h]
  rw [Reader.step, Reader.stepChar, if_neg h.1, if_neg h.2.1, if_neg hread]

/-- Literal characters between double quotes are pieces of their own. -/
theorem pieces?_literal {cs : List Char} (h : ∀ c ∈ cs, c ∉ specials) (rest : List Char) :
    Reader.pieces? { quoted := true } (cs ++ rest) =
      (Reader.pieces? { quoted := true } rest).map (cs.map (⟨.char ·, true⟩) ++ ·) := by
  induction cs with
  | nil => exact Option.map_id'.symm
  | cons c cs ih =>
    rw [List.forall_mem_cons] at h
    rw [List.cons_append, Reader.pieces?_cons (step_of_literal h.1), ih h.2, Option.map_map]
    rfl

theorem pieces?_quoted {s : String} (h : Literal s) :
    Reader.pieces? {} (quoted s).toList = some (s.toList.map (⟨.char ·, true⟩)) := by
  have htext : (quoted s).toList = '"' :: (s.toList ++ ['"']) := by
    rw [quoted, String.toList_append, String.toList_append]
    rfl
  have hclosed : Reader.pieces? { quoted := true } ['"'] = some [] := rfl
  have hopened : Reader.step {} '"' = some ([], { quoted := true }) := rfl
  rw [htext, Reader.pieces?_cons hopened, pieces?_literal h, hclosed, Option.map_some,
    Option.map_some, List.append_nil, List.nil_append]

theorem assigned?_quoted (env : Env) {s : String} (h : Literal s) :
    assigned? env (quoted s).toList = some s.toList := by
  have hone : (s.toList.map (⟨.char ·, true⟩)).any Piece.endsWord = false := by
    rw [List.any_map, List.any_eq_false]
    exact fun c _ => Bool.false_ne_true
  have htext : (s.toList.map (⟨.char ·, true⟩)).flatMap (fun p : Piece => p.part.text env) =
      s.toList := by
    rw [List.flatMap_map]
    exact List.flatMap_singleton' s.toList
  rw [assigned?, pieces?_quoted h, Option.bind_some, hone, htext]
  rfl

/-! ## Words -/

/-- A text that stays in one word. -/
def chars (s : String) : List Symbol :=
  s.toList.map .char

/-- A text that has come in outside of double quotes. -/
def expanded (s : String) : List Symbol :=
  s.toList.map .ofExpanded

theorem chars_append (s t : String) : chars (s ++ t) = chars s ++ chars t := by
  rw [chars, String.toList_append, List.map_append, chars, chars]

theorem expanded_eq_chars {s : String} (h : Unsplit s) : expanded s = chars s := by
  refine List.map_congr_left fun c hc => ?_
  rw [Symbol.ofExpanded, h c hc]
  rfl

theorem stop_notMem_chars (s : String) : .stop ∉ chars s := by
  intro h
  obtain ⟨c, -, hc⟩ := List.mem_map.mp h
  cases hc

theorem stop_notMem_expanded (s : String) : .stop ∉ expanded s := by
  intro h
  obtain ⟨c, -, hc⟩ := List.mem_map.mp h
  rw [Symbol.ofExpanded] at hc
  split at hc <;> cases hc

/-- Characters go on with a word. -/
theorem split_chars (words : List String) (seen : List Char) (s : String)
    (symbols : List Symbol) :
    split words seen (chars s ++ symbols) = split words (seen ++ s.toList) symbols := by
  rw [chars]
  generalize s.toList = cs
  induction cs generalizing seen with
  | nil => rw [List.map_nil, List.nil_append, List.append_nil]
  | cons c cs ih =>
    rw [List.map_cons, List.cons_append, split, ih, List.append_assoc, List.singleton_append]

theorem endWord_toList {s : String} (h : s ≠ "") : endWord s.toList = [s] := by
  rw [endWord, if_neg (by simpa using h), String.ofList_toList]

theorem split_word {s : String} (h : s ≠ "") (words : List String) (symbols : List Symbol) :
    split words [] (chars s ++ .gap :: symbols) = split (words ++ [s]) [] symbols := by
  rw [split_chars, List.nil_append, split, endWord_toList h]

theorem split_lastWord {s : String} (h : s ≠ "") (w : String) (words : List String) :
    split (w :: words) [] (chars s) = [w :: words ++ [s]] := by
  have hsplit := split_chars (w :: words) [] s []
  rw [List.append_nil, List.nil_append, split, endWord_toList h] at hsplit
  exact hsplit

/-- Without a blank in it, a replaced text and what is written behind it are one word. -/
theorem split_expanded {s t : String} (h : Unsplit s) (ht : t ≠ "") (w : String)
    (words : List String) :
    split (w :: words) [] (expanded s ++ chars t) = [w :: words ++ [s ++ t]] := by
  rw [expanded_eq_chars h, ← chars_append]
  exact split_lastWord (by simp [ht]) w words

/-- Without the end of a command there is one command, with the words with which it has begun. -/
theorem exists_split_eq {symbols : List Symbol} (h : .stop ∉ symbols) (w : String)
    (words : List String) (seen : List Char) :
    ∃ more, split (w :: words) seen symbols = [w :: more] := by
  induction symbols generalizing words seen with
  | nil => exact ⟨words ++ endWord seen, rfl⟩
  | cons symbol symbols ih =>
    rw [List.mem_cons, not_or] at h
    cases symbol with
    | char c => exact ih h.2 words (seen ++ [c])
    | gap => exact ih h.2 (words ++ endWord seen) []
    | stop => exact absurd rfl h.1

theorem mem_endWord {seen : List Char} {w : String} (h : w ∈ endWord seen) :
    w = String.ofList seen := by
  rw [endWord] at h
  split at h
  · cases h
  · exact List.mem_singleton.mp h

theorem eq_of_mem_endCommand {words command : List String} (h : command ∈ endCommand words) :
    command = words := by
  rw [endCommand] at h
  split at h
  · cases h
  · exact List.mem_singleton.mp h

/-- What holds of all characters that are split into words holds of the characters of the words. -/
theorem forall_mem_split {P : Char → Prop} {symbols : List Symbol} {words : List String}
    {seen : List Char} (hsymbols : ∀ c, .char c ∈ symbols → P c)
    (hwords : ∀ w ∈ words, ∀ c ∈ w.toList, P c) (hseen : ∀ c ∈ seen, P c) :
    ∀ command ∈ split words seen symbols, ∀ w ∈ command, ∀ c ∈ w.toList, P c := by
  have hended : ∀ {words : List String} {seen : List Char},
      (∀ w ∈ words, ∀ c ∈ w.toList, P c) → (∀ c ∈ seen, P c) →
        ∀ w ∈ words ++ endWord seen, ∀ c ∈ w.toList, P c := by
    intro words seen hwords hseen w hw
    rcases List.mem_append.mp hw with hw | hw
    · exact hwords w hw
    · rw [mem_endWord hw, String.toList_ofList]
      exact hseen
  induction symbols generalizing words seen with
  | nil =>
    intro command hcommand
    rw [eq_of_mem_endCommand hcommand]
    exact hended hwords hseen
  | cons symbol symbols ih =>
    have hrest : ∀ c, .char c ∈ symbols → P c := fun c hc => hsymbols c (List.mem_cons_of_mem _ hc)
    cases symbol with
    | char c =>
      refine ih hrest hwords fun d hd => ?_
      rcases List.mem_append.mp hd with hd | hd
      · exact hseen d hd
      · rw [List.mem_singleton.mp hd]
        exact hsymbols c List.mem_cons_self
    | gap => exact ih hrest (hended hwords hseen) fun c hc => absurd hc List.not_mem_nil
    | stop =>
      intro command hcommand
      rcases List.mem_append.mp hcommand with hcommand | hcommand
      · rw [eq_of_mem_endCommand hcommand]
        exact hended hwords hseen
      · exact ih hrest (fun w hw => absurd hw List.not_mem_nil)
          (fun c hc => absurd hc List.not_mem_nil) command hcommand

/-! ## Lines -/

theorem commands?_lines {ls : List String} (hne : ls ≠ []) (hbreak : ∀ l ∈ ls, '\n' ∉ l.toList)
    (output : String → String) : commands? output (lines ls) =
      runLines? { value := fun _ => [], output } (ls.map String.toList) := by
  rw [commands?, readLines_lines hne hbreak]

section

variable {env : Env} {l : List Char} {ls : List (List Char)}

theorem runLines?_of_comment (h : l.head? = some '#') :
    runLines? env (l :: ls) = runLines? env ls := by
  rw [runLines?, if_pos h]

theorem runLines?_of_assignment {name : String} {text value : List Char}
    (hcomment : l.head? ≠ some '#') (hassigns : assignment? l = some (name, text))
    (hvalue : assigned? env text = some value) :
    runLines? env (l :: ls) = runLines? (env.set name value) ls := by
  rw [runLines?, if_neg hcomment, hassigns]
  simp only [hvalue, Option.bind_some]

theorem runLines?_of_commands {pieces : List Piece} (hcomment : l.head? ≠ some '#')
    (hassigns : assignment? l = none) (hpieces : Reader.pieces? {} l = some pieces) :
    runLines? env (l :: ls) = (runLines? env ls).map (commandsOf env pieces ++ ·) := by
  rw [runLines?, if_neg hcomment, hassigns]
  simp only [hpieces, Option.bind_some]

theorem runLines?_assignQuoted (name : String) (hne : name ≠ "")
    (hname : name.toList.all isNameChar = true) {s : String} (h : Literal s) :
    runLines? env ((name ++ "=" ++ quoted s).toList :: ls) =
      runLines? (env.set name s.toList) ls := by
  have hline : (name ++ "=" ++ quoted s).toList = name.toList ++ '=' :: (quoted s).toList := by
    rw [String.toList_append, String.toList_append, List.append_assoc]
    rfl
  have hequals : isNameChar '=' = false := by decide
  rw [List.all_eq_true] at hname
  obtain ⟨c, cs, hcs⟩ := List.exists_cons_of_ne_nil (show name.toList ≠ [] by simpa using hne)
  have hassigns : assignment? (name.toList ++ '=' :: (quoted s).toList) =
      some (name, (quoted s).toList) := by
    rw [assignment?, List.takeWhile_append_of_pos hname, List.dropWhile_append_of_pos hname,
      List.takeWhile_cons_of_neg (Bool.eq_false_iff.mp hequals),
      List.dropWhile_cons_of_neg (Bool.eq_false_iff.mp hequals), List.append_nil, hcs]
    show some (String.ofList (c :: cs), _) = _
    rw [← hcs, String.ofList_toList]
  have hcomment : (name.toList ++ '=' :: (quoted s).toList).head? ≠ some '#' := by
    have hc := hname c (hcs ▸ List.mem_cons_self)
    rw [hcs]
    intro heq
    obtain rfl : c = '#' := Option.some.inj heq
    exact absurd hc (by decide)
  rw [hline, runLines?_of_assignment hcomment hassigns (assigned?_quoted env h)]

theorem runLines?_echo {s : String} (h : Literal s) (hne : s ≠ "") :
    runLines? env ((echo s).toList :: ls) = (runLines? env ls).map ([["echo", s]] ++ ·) := by
  have hline : (echo s).toList = "echo ".toList ++ (quoted s).toList := by
    rw [echo, String.toList_append]
  have hpieces : Reader.pieces? {} ("echo ".toList ++ (quoted s).toList) =
      some ("echo ".toList.map (⟨.char ·, false⟩) ++ s.toList.map (⟨.char ·, true⟩)) := by
    show (((((Reader.pieces? {} (quoted s).toList).map _).map _).map _).map _).map _ = _
    rw [pieces?_quoted h]
    rfl
  have hcommands : commandsOf env
      ("echo ".toList.map (⟨.char ·, false⟩) ++ s.toList.map (⟨.char ·, true⟩)) =
        [["echo", s]] := by
    have hsymbols : (s.toList.map (⟨.char ·, true⟩)).flatMap (Piece.symbols env) = chars s := by
      rw [List.flatMap_map]
      exact List.map_eq_flatMap.symm
    rw [commandsOf, List.flatMap_append, hsymbols]
    exact split_lastWord hne "echo" []
  have hcomment : ("echo ".toList ++ (quoted s).toList).head? ≠ some '#' :=
    fun heq => absurd (Option.some.inj heq) (by decide)
  rw [hline, runLines?_of_commands hcomment rfl hpieces, hcommands]

end

/-! ## Words without blanks -/

/-- The symbols make no word with a blank. -/
def Gapless (symbols : List Symbol) : Prop :=
  ∀ c, .char c ∈ symbols → isGap c = false

theorem gapless_chars {s : String} (h : Unsplit s) : Gapless (chars s) := by
  intro c hc
  obtain ⟨d, hd, heq⟩ := List.mem_map.mp hc
  cases heq
  exact h c hd

/-- A blank that comes in outside of double quotes ends a word. -/
theorem gapless_expanded (s : String) : Gapless (expanded s) := by
  intro c hc
  obtain ⟨d, -, hd⟩ := List.mem_map.mp hc
  rw [Symbol.ofExpanded] at hd
  split at hd
  · cases hd
  · rename_i hgap
    cases hd
    exact Bool.eq_false_iff.mpr hgap

theorem Gapless.append {symbols more : List Symbol} (h : Gapless symbols) (hmore : Gapless more) :
    Gapless (symbols ++ more) :=
  fun c hc => (List.mem_append.mp hc).elim (h c) (hmore c)

theorem Gapless.gap_cons {symbols : List Symbol} (h : Gapless symbols) :
    Gapless (.gap :: symbols) := by
  intro c hc
  rcases List.mem_cons.mp hc with heq | hc
  · cases heq
  · exact h c hc

theorem unsplit_of_mem_split {symbols : List Symbol} {words : List String}
    (hsymbols : Gapless symbols) (hwords : ∀ w ∈ words, Unsplit w) :
    ∀ command ∈ split words [] symbols, ∀ w ∈ command, Unsplit w :=
  forall_mem_split hsymbols hwords fun _ hc => absurd hc List.not_mem_nil

/-! ## Copies -/

theorem Unsplit.append {s t : String} (hs : Unsplit s) (ht : Unsplit t) : Unsplit (s ++ t) := by
  intro c hc
  rw [String.toList_append, List.mem_append] at hc
  exact hc.elim (hs c) (ht c)

theorem Unsplit.landing {target source : String} (htarget : Unsplit target)
    (hsource : Unsplit source) : Unsplit (landing target source) := by
  have hown : Unsplit (String.ofList (source.toList.reverse.takeWhile (· != '/')).reverse) := by
    intro c hc
    rw [String.toList_ofList, List.mem_reverse] at hc
    exact hsource c (List.mem_reverse.mp ((List.takeWhile_sublist _).subset hc))
  rw [Shell.landing]
  split
  · exact htarget
  · split
    · exact htarget.append hown
    · exact (htarget.append (by decide)).append hown

/-- Words without blanks are copied to paths without blanks. -/
theorem unsplit_of_mem_copiesOf {command : List String} (h : ∀ w ∈ command, Unsplit w)
    {copy : String × String} (hcopy : copy ∈ copiesOf command) : Unsplit copy.2 := by
  match command with
  | name :: option :: paths =>
    rw [copiesOf] at hcopy
    split at hcopy
    · obtain ⟨source, hsource, rfl⟩ := List.mem_map.mp hcopy
      have hpaths : ∀ path ∈ paths, Unsplit path := fun path hpath =>
        h path (List.mem_cons_of_mem _ (List.mem_cons_of_mem _ hpath))
      have hmem : source ∈ paths := (List.dropLast_sublist paths).subset hsource
      refine Unsplit.landing (hpaths _ ?_) (hpaths source hmem)
      rw [List.getLastD_eq_getLast?, List.getLast?_eq_some_getLast (List.ne_nil_of_mem hmem)]
      exact List.getLast_mem _
    · cases hcopy

theorem testOf?_cons_eq_none {w : String} {words : List String} (hloop : w ≠ "until")
    (hopening : w ≠ "[") : testOf? (w :: words) = none := by
  rw [testOf?, List.dropWhile_cons_of_neg (by simpa using hloop)]
  split
  · rename_i heq
    obtain ⟨rfl, -⟩ := List.cons.inj heq
    exact if_neg fun h => hopening h.1
  · rfl

end Shell
end MeasuredJob
