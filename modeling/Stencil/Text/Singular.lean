import Stencil.Text.Word

/-! # Singular forms

A loop names its item after the collection, by the singular of an English plural. Words without a
plural stay as they are, eleven irregular plurals are looked up, and for the rest the first rule
that fits decides. A rule looks at the end of a word; what stands before the last run of word
characters is dropped when a rule fires.
-/

namespace Stencil.Text.Singular

/-- Words that are their own singular. -/
def uncountable : List String := [
  "accommodation", "adulthood", "advertising", "advice", "aggression", "aid", "air", "aircraft",
  "alcohol", "anger", "applause", "arithmetic", "assistance", "athletics", "bacon", "baggage",
  "beef", "biology", "blood", "botany", "bread", "butter", "carbon", "cardboard", "cash", "chalk",
  "chaos", "chess", "crossroads", "countryside", "dancing", "deer", "dignity", "dirt", "dust",
  "economics", "education", "electricity", "engineering", "enjoyment", "envy", "equipment",
  "ethics", "evidence", "evolution", "fame", "fiction", "flour", "flu", "food", "fuel", "fun",
  "furniture", "gallows", "garbage", "garlic", "genetics", "gold", "golf", "gossip", "grammar",
  "gratitude", "grief", "guilt", "gymnastics", "happiness", "hardware", "harm", "hate", "hatred",
  "health", "heat", "help", "homework", "honesty", "honey", "hospitality", "housework", "humour",
  "hunger", "hydrogen", "ice", "importance", "inflation", "information", "innocence", "iron",
  "irony", "jam", "jewelry", "judo", "karate", "knowledge", "lack", "laughter", "lava", "leather",
  "leisure", "lightning", "linguine", "linguini", "linguistics", "literature", "litter",
  "livestock", "logic", "loneliness", "luck", "luggage", "macaroni", "machinery", "magic",
  "management", "mankind", "marble", "mathematics", "mayonnaise", "measles", "methane", "milk",
  "money", "mud", "music", "mumps", "nature", "news", "nitrogen", "nonsense", "nurture",
  "nutrition", "obedience", "obesity", "oxygen", "pasta", "patience", "physics", "poetry",
  "pollution", "poverty", "pride", "psychology", "publicity", "punctuation", "quartz", "racism",
  "relaxation", "reliability", "research", "respect", "revenge", "rice", "rubbish", "rum",
  "safety", "scenery", "seafood", "seaside", "series", "shame", "sheep", "shopping", "sleep",
  "smoke", "smoking", "snow", "soap", "software", "soil", "spaghetti", "species", "steam",
  "stuff", "stupidity", "sunshine", "symmetry", "tennis", "thirst", "thunder", "timber",
  "traffic", "transportation", "trust", "underwear", "unemployment", "unity", "validity", "veal",
  "vegetation", "vegetarianism", "vengeance", "violence", "vitality", "warmth", "wealth",
  "weather", "welfare", "wheat", "wildlife", "wisdom", "yoga", "zinc", "zoology"]

/-- Plurals that no rule covers, with their singulars. -/
def irregular : List (String × String) := [
  ("oxen", "ox"), ("boxes", "box"), ("men", "man"), ("women", "woman"), ("dice", "die"),
  ("yeses", "yes"), ("feet", "foot"), ("eaves", "eave"), ("geese", "goose"), ("teeth", "tooth"),
  ("quizzes", "quiz")]

/-- What has to stand in front of the ending that a rule takes away; it stays in the singular. -/
inductive Stem where
  /-- Nothing in particular. -/
  | any
  /-- One of these endings. -/
  | ends (endings : List String)
  /-- One character, none of these; or else one of these endings. -/
  | exceptFor (chars : String) (endings : List String)

/-- How a word can be a plural, and its singular. -/
inductive Rule where
  /-- The word is one of these. -/
  | exactly (words : List String) (singular : String)
  /-- The word begins like this, whatever follows. -/
  | begins (opening : String) (singular : String)
  /-- The word is a stem with one of these endings, which gives way to another. -/
  | ending (stem : Stem) (plurals : List String) (singular : String)

/-- A text without an ending, when it has that ending. -/
def dropEnd? (chars ending : List Char) : Option (List Char) :=
  if ending.isSuffixOf chars then some (chars.take (chars.length - ending.length)) else none

/-- The number of characters at the end of a text that the stem fixes. -/
def Stem.length? (chars : List Char) : Stem → Option Nat
  | any => some 0
  | ends endings => (endings.find? fun e => e.toList.isSuffixOf chars).map (·.length)
  | exceptFor barred endings =>
    match chars.getLast? with
    | some c =>
      if barred.toList.contains c then
        (endings.find? fun e => e.toList.isSuffixOf chars).map (·.length)
      else some 1
    | none => none

/-- What a rule keeps of a text: the stem's own characters and the run of word characters in front
of them. -/
def Stem.keep? (stem : Stem) (chars : List Char) : Option (List Char) :=
  (stem.length? chars).map fun fixed =>
    let front := chars.take (chars.length - fixed)
    wordEnd front ++ chars.drop (chars.length - fixed)

/-- A stem with its new ending. A dollar sign right before the ending turns it into a reference to
something that no rule has: nothing is left of the two. -/
def attach (stem ending : List Char) : List Char :=
  if stem.getLast? = some '$' then stem.dropLast else stem ++ ending

/-- The singular that a rule gives, if the rule fits. -/
def Rule.singular? (word : List Char) : Rule → Option (List Char)
  | exactly words singular => if words.contains (String.ofList word) then some singular.toList else none
  | begins opening singular => if opening.toList.isPrefixOf word then some singular.toList else none
  | ending stem plurals singular =>
    plurals.findSome? fun plural => do
      let front ← dropEnd? word plural.toList
      let kept ← stem.keep? front
      return attach kept singular.toList

/-- The rules in the order in which they are tried. -/
def rules : List Rule := [
  .ending (.ends ["database"]) ["s"] "",
  .ending (.ends ["quiz"]) ["zes"] "",
  .ending (.ends ["matr"]) ["ices"] "ix",
  .ending (.ends ["vert", "ind"]) ["ices"] "ex",
  .begins "oxen" "ox",
  .ending (.ends ["alias", "status"]) ["", "es"] "",
  .ending (.ends ["octop", "vir"]) ["us", "i"] "us",
  .exactly ["axis", "axes"] "axis",
  .ending (.ends ["cris", "test"]) ["is", "es"] "is",
  .ending (.ends ["shoe"]) ["s"] "",
  .ending (.ends ["bus"]) ["", "es"] "",
  .ending (.ends ["m", "l"]) ["ice"] "ouse",
  .ending (.ends ["x", "ch", "ss", "sh"]) ["es"] "",
  .ending (.ends ["m"]) ["ovies"] "ovie",
  .ending (.ends ["s"]) ["eries"] "eries",
  .ending (.exceptFor "aeiouy" ["qu"]) ["ies"] "y",
  .ending (.ends ["l", "r"]) ["ves"] "f",
  .ending (.ends ["tive"]) ["s"] "",
  .ending (.ends ["hive"]) ["s"] "",
  .ending (.exceptFor "f" []) ["ves"] "fe",
  .exactly ["analysis", "analyses"] "analysis",
  .ending (.ends ["analy", "ba", "diagno", "parenthe", "progno", "synop", "the"]) ["sis", "ses"] "sis",
  .ending (.ends ["t", "i"]) ["a"] "um",
  .ending (.ends ["o"]) ["es"] "",
  .ending (.ends ["n"]) ["ews"] "ews",
  .ending (.ends ["ss"]) [""] "",
  .ending .any ["s"] ""]

end Singular

/-- The singular of an English word; letters count as they are written. -/
def singular (word : String) : String :=
  if Singular.uncountable.contains word then word
  else match Singular.irregular.lookup word with
    | some form => form
    | none => ((Singular.rules.findSome? (·.singular? word.toList)).map String.ofList).getD word

end Stencil.Text
