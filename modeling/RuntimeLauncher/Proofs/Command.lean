import Mathlib.Data.List.Forall2
import RuntimeLauncher.Proofs.Machine.Image

/-!
# The line for the user, word by word

The line for the user and the arguments for the system are written apart from each other, and only
the line has quotes. Reading the line as a shell would read it gives back the arguments, as long as
nothing that stands outside of the quotes needs them.

## Main Definitions

* `Words.Reader`, `Words.ofLine` — reads a line with quotes as words
* `Words.Spells` — a text is read as a part of one word
* `Words.IsPlain` — a text that can do without quotes
* `Command.IsShowable` — a command that the line shows as it is

## Main Statements

* `Words.spells_of_isPlain`, `Words.spells_inQuotes` — what a text without and with quotes is read
  as
* `Words.ofLine_row` — a row of texts with blanks between them is read as a row of words
* `Command.words_echoLine` — the line is read as the program and its arguments

## Design Notes

A quote only switches blanks on and off as ends of words, and may stand in the middle of a word. A
word exists if it has a character or had quotes, so the empty text has to be quoted to be one.
-/

namespace RuntimeLauncher

namespace Words

/-- What has been read of a line. -/
structure Reader where
  /-- The words that have come to their end. -/
  words : List String
  /-- The word on the way. There is none behind a blank. -/
  word : Option String
  /-- The reader stands inside of quotes. -/
  quoted : Bool

namespace Reader

/-- Nothing is read. -/
def start : Reader := ⟨[], none, false⟩

/-- The word on the way goes on with a part, and begins with it if there is none. -/
def extend (reader : Reader) (part : String) : Reader :=
  { reader with word := some (reader.word.getD "" ++ part) }

/-- The word on the way comes to its end. -/
def finish (reader : Reader) : Reader :=
  { reader with words := reader.words ++ reader.word.toList, word := none }

/-- Takes one character. -/
def take (reader : Reader) (c : Char) : Reader :=
  if c = '"' then { reader.extend "" with quoted := !reader.quoted }
  else if c = ' ' ∧ reader.quoted = false then reader.finish
  else reader.extend (String.singleton c)

/-- Takes a text, character by character. -/
def takeAll (reader : Reader) (text : String) : Reader := text.toList.foldl take reader

end Reader

/-- The words of a line. -/
def ofLine (line : String) : List String := (Reader.start.takeAll line).finish.words

/-- A reader outside of quotes takes the text as a part of the word on the way. -/
def Spells (text part : String) : Prop :=
  ∀ reader : Reader, reader.quoted = false → reader.takeAll text = reader.extend part

/-- There is no blank in the text, and no quote. -/
structure IsPlain (text : String) : Prop where
  no_blank : ' ' ∉ text.toList
  no_quote : '"' ∉ text.toList

variable {reader : Reader} {text part text' part' : String}

/-! ### Reading a part of a word -/

namespace Reader

@[simp]
theorem extend_extend (reader : Reader) (a b : String) :
    (reader.extend a).extend b = reader.extend (a ++ b) := by
  simp [extend, String.append_assoc]

theorem takeAll_append (reader : Reader) (a b : String) :
    reader.takeAll (a ++ b) = (reader.takeAll a).takeAll b := by
  simp [takeAll]

/-- Characters that end no word and are no quotes go on with it. Inside of quotes, blanks are among
them. -/
theorem foldl_take (chars : List Char) (hquote : '"' ∉ chars)
    (hblank : reader.quoted = false → ' ' ∉ chars) (part : String) :
    chars.foldl take (reader.extend part) = reader.extend (part ++ String.ofList chars) := by
  induction chars generalizing part with
  | nil => simp
  | cons c rest ih =>
    obtain ⟨hc, hrest⟩ := not_or.1 (fun h => hquote (List.mem_cons.2 h))
    have htake : take (reader.extend part) c = reader.extend (part ++ String.singleton c) := by
      have hend : ¬(c = ' ' ∧ (reader.extend part).quoted = false) := by
        rintro ⟨rfl, hopen⟩
        exact hblank hopen List.mem_cons_self
      rw [take, if_neg (Ne.symm hc), if_neg hend, extend_extend]
    rw [List.foldl_cons, htake, ih hrest fun hopen => List.not_mem_of_not_mem_cons (hblank hopen)]
    congr 1
    rw [← String.toList_inj]
    simp

end Reader

theorem Spells.append (h : Spells text part) (h' : Spells text' part') :
    Spells (text ++ text') (part ++ part') := by
  intro reader hopen
  rw [Reader.takeAll_append, h reader hopen, h' (reader.extend part) hopen, Reader.extend_extend]

/-- **A text without blanks and quotes is read as itself,** if there is something of it. -/
theorem spells_of_isPlain (h : IsPlain text) (hne : text ≠ "") : Spells text text := by
  intro reader hopen
  obtain ⟨c, rest, hchars⟩ := List.exists_cons_of_ne_nil (by simpa using hne : text.toList ≠ [])
  have hquote := h.no_quote
  have hblank := h.no_blank
  rw [hchars] at hquote hblank
  have htake : reader.take c = reader.extend (String.singleton c) := by
    rw [Reader.take, if_neg (List.ne_of_not_mem_cons hquote).symm,
      if_neg fun hend => List.ne_of_not_mem_cons hblank hend.1.symm]
  rw [Reader.takeAll, hchars, List.foldl_cons, htake,
    Reader.foldl_take rest (List.not_mem_of_not_mem_cons hquote)
      fun _ => List.not_mem_of_not_mem_cons hblank]
  congr 1
  rw [← String.toList_inj, hchars]
  simp

/-- **A text in quotes is read as what stands between them,** whatever that is. -/
theorem spells_inQuotes (h : '"' ∉ text.toList) : Spells (Command.inQuotes text) text := by
  intro reader hopen
  have hopening : reader.take '"' = { reader with quoted := true }.extend "" := by
    simp [Reader.take, Reader.extend, hopen]
  have hclosing : ({ reader with quoted := true }.extend text).take '"' = reader.extend text := by
    simp [Reader.take, Reader.extend, hopen]
  have hchars : (Command.inQuotes text).toList = '"' :: (text.toList ++ ['"']) := by
    simp [Command.inQuotes]
  have hinside : text.toList.foldl Reader.take ({ reader with quoted := true }.extend "") =
      { reader with quoted := true }.extend text := by
    simpa using Reader.foldl_take text.toList h (fun hclosed => Bool.noConfusion hclosed) ""
  rw [Reader.takeAll, hchars, List.foldl_cons, hopening, List.foldl_append, hinside]
  exact hclosing

/-! ### Reading a row of words -/

/-- A row of texts, each behind a blank, ends the word on the way and is read as a row of words. -/
theorem takeAll_row {texts words : List String} (h : texts.Forall₂ Spells words)
    (hopen : reader.quoted = false) :
    (reader.takeAll (String.join (texts.map (" " ++ ·)))).finish.words =
      reader.finish.words ++ words := by
  induction h generalizing reader with
  | nil => simp [Reader.takeAll]
  | @cons text word texts words htext _ ih =>
    have hblank : reader.takeAll " " = reader.finish := by
      simp [Reader.takeAll, Reader.take, hopen]
    rw [List.map_cons, String.join_cons, Reader.takeAll_append, Reader.takeAll_append, hblank,
      htext reader.finish hopen, ih (show (reader.finish.extend word).quoted = false from hopen)]
    simp [Reader.finish, Reader.extend]

/-- **A row of texts with blanks between them is read as a row of words.** -/
theorem ofLine_row {first word : String} {texts words : List String} (hfirst : Spells first word)
    (h : texts.Forall₂ Spells words) :
    ofLine (first ++ String.join (texts.map (" " ++ ·))) = word :: words := by
  rw [ofLine, Reader.takeAll_append, hfirst Reader.start rfl, takeAll_row h rfl]
  simp [Reader.finish, Reader.extend, Reader.start]

end Words

namespace Command

open Words

/-- The line shows the command as it is: no quote stands inside of quotes, and nothing outside of
them needs any. -/
structure IsShowable (command : Command) : Prop where
  runtime : '"' ∉ command.runtime.toList
  proxyKey : ∀ proxy ∈ command.proxy, IsPlain proxy.key
  proxyValue : ∀ proxy ∈ command.proxy, '"' ∉ proxy.value.toList
  overrides : ∀ property ∈ command.overrides, IsPlain property.key ∧ IsPlain property.value
  classpath : IsPlain command.classpath ∧ command.classpath ≠ ""
  mainClass : IsPlain command.mainClass ∧ command.mainClass ≠ ""

variable {command : Command} {property : Property}

/-- A property with its value in quotes. -/
def quotedProperty (property : Property) : String :=
  "-D" ++ property.key ++ "=" ++ inQuotes property.value

/-- The properties in the line. -/
def shownProperties (command : Command) : List String :=
  command.proxy.toList.map quotedProperty ++ command.overrides.map Property.argument

/-- The texts behind the program in the line. -/
def shownArguments (command : Command) : List String :=
  command.shownProperties ++ [classpathFlag, command.classpath, command.mainClass]

theorem flagText_eq (command : Command) :
    command.flagText = String.join (command.shownProperties.map (" " ++ ·)) := by
  cases hproxy : command.proxy with
  | none => simp [flagText, shownProperties, hproxy, Function.comp_def]
  | some proxy =>
    simp [flagText, shownProperties, quotedProperty, hproxy, Function.comp_def, ← String.toList_inj]

/-- The line is one row of texts, each behind a blank but the first. -/
theorem echoLine_eq (command : Command) :
    command.echoLine =
      inQuotes command.runtime ++ String.join (command.shownArguments.map (" " ++ ·)) := by
  have hrow : command.echoLine = command.commandLine ++
      String.join ([classpathFlag, command.classpath, command.mainClass].map (" " ++ ·)) := by
    simp [echoLine, parts, String.append_assoc]
  rw [hrow, commandLine, flagText_eq, shownArguments, List.map_append, String.join_append,
    String.append_assoc]

theorem spells_quotedProperty (hkey : IsPlain property.key)
    (hvalue : '"' ∉ property.value.toList) :
    Spells (quotedProperty property) property.argument := by
  have hname : IsPlain ("-D" ++ property.key ++ "=") :=
    ⟨by simpa using hkey.no_blank, by simpa using hkey.no_quote⟩
  exact (spells_of_isPlain hname (by simp)).append (spells_inQuotes hvalue)

theorem spells_argument (hkey : IsPlain property.key) (hvalue : IsPlain property.value) :
    Spells property.argument property.argument := by
  refine spells_of_isPlain ⟨?_, ?_⟩ (by simp [Property.argument])
  · simpa [Property.argument] using ⟨hkey.no_blank, hvalue.no_blank⟩
  · simpa [Property.argument] using ⟨hkey.no_quote, hvalue.no_quote⟩

theorem spells_shownArguments (h : command.IsShowable) :
    command.shownArguments.Forall₂ Spells command.arguments := by
  have hproxy : (command.proxy.toList.map quotedProperty).Forall₂ Spells
      (command.proxy.toList.map Property.argument) := by
    rw [List.forall₂_map_left_iff, List.forall₂_map_right_iff, List.forall₂_same]
    intro proxy hmem
    rw [Option.mem_toList] at hmem
    exact spells_quotedProperty (h.proxyKey proxy hmem) (h.proxyValue proxy hmem)
  have hoverrides : (command.overrides.map Property.argument).Forall₂ Spells
      (command.overrides.map Property.argument) := by
    rw [List.forall₂_map_left_iff, List.forall₂_map_right_iff, List.forall₂_same]
    intro property hmem
    obtain ⟨hkey, hvalue⟩ := h.overrides property hmem
    exact spells_argument hkey hvalue
  have hflag : Spells classpathFlag classpathFlag :=
    spells_of_isPlain ⟨by decide, by decide⟩ (by decide)
  have hrest : [classpathFlag, command.classpath, command.mainClass].Forall₂ Spells
      [classpathFlag, command.classpath, command.mainClass] :=
    .cons hflag (.cons (spells_of_isPlain h.classpath.1 h.classpath.2)
      (.cons (spells_of_isPlain h.mainClass.1 h.mainClass.2) .nil))
  rw [shownArguments, shownProperties, arguments, propertyArguments, properties, List.map_append]
  exact List.rel_append (List.rel_append hproxy hoverrides) hrest

/-- **The line says what is executed.**  Let no quote stand in the program's path and in the proxy's
address, neither blank nor quote in the other parts, and something in the class path and the main
class. Then the words of the line are the program, the properties as arguments, and the class path
and the main class behind their flag. These are the arguments with which the process is replaced,
the program's name being the first of them. -/
theorem words_echoLine (h : command.IsShowable) :
    ofLine command.echoLine =
        [command.runtime] ++ command.propertyArguments ++
          ["-cp", command.classpath, command.mainClass] ∧
      ∀ (tree : FileTree) (cwd : Place) (searchPath : Option String) (image : Image),
        Image.replace tree cwd searchPath command = .ok image ↔
          (ofLine command.echoLine).all Image.isPassedOn = true ∧
            Image.find tree cwd searchPath command.runtime (ofLine command.echoLine) =
              .ok image := by
  have hwords : ofLine command.echoLine = command.runtime :: command.arguments := by
    rw [echoLine_eq]
    exact ofLine_row (spells_inQuotes h.runtime) (spells_shownArguments h)
  refine ⟨hwords, fun tree cwd searchPath image => ?_⟩
  rw [hwords]
  exact Image.replace_ok_iff

/-- A command with blanks wherever there are quotes around them, and with an empty value. -/
def spacious : Command where
  runtime := "/opt/Java Runtime/bin/java"
  proxy := some ⟨"jxta.proxy", "first:80 second:80"⟩
  overrides := [⟨"JXTA_HOME", "/srv/jxta"⟩, ⟨"empty", ""⟩, ⟨"JXTA_HOME", "a=b"⟩]
  classpath := ".:./lib/a.jar"
  mainClass := "net.jxta.impl.peergroup.Boot"

/-- Blanks in quotes end no word, and quotes leave no trace. -/
theorem words_echoLine_spacious :
    spacious.IsShowable ∧
      spacious.echoLine = "\"/opt/Java Runtime/bin/java\" -Djxta.proxy=\"first:80 second:80\" " ++
        "-DJXTA_HOME=/srv/jxta -Dempty= -DJXTA_HOME=a=b " ++
        "-cp .:./lib/a.jar net.jxta.impl.peergroup.Boot" ∧
      ofLine spacious.echoLine =
        ["/opt/Java Runtime/bin/java", "-Djxta.proxy=first:80 second:80",
          "-DJXTA_HOME=/srv/jxta", "-Dempty=", "-DJXTA_HOME=a=b", "-cp", ".:./lib/a.jar",
          "net.jxta.impl.peergroup.Boot"] ∧
      ∀ (tree : FileTree) (cwd : Place) (searchPath : Option String) (image : Image),
        Image.replace tree cwd searchPath spacious = .ok image ↔
          (ofLine spacious.echoLine).all Image.isPassedOn = true ∧
            Image.find tree cwd searchPath spacious.runtime (ofLine spacious.echoLine) =
              .ok image := by
  have h : spacious.IsShowable := {
    runtime := by decide
    proxyKey := by simpa [spacious] using ⟨by decide, by decide⟩
    proxyValue := by simp [spacious]
    overrides := by
      simp only [spacious, List.forall_mem_cons]
      exact ⟨⟨⟨by decide, by decide⟩, ⟨by decide, by decide⟩⟩,
        ⟨⟨by decide, by decide⟩, ⟨by decide, by decide⟩⟩,
        ⟨⟨by decide, by decide⟩, ⟨by decide, by decide⟩⟩, by simp⟩
    classpath := ⟨⟨by decide, by decide⟩, by decide⟩
    mainClass := ⟨⟨by decide, by decide⟩, by decide⟩ }
  exact ⟨h, rfl, words_echoLine h⟩

end Command

end RuntimeLauncher
