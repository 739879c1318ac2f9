import Gatehouse.Unicode.Runs
import Gatehouse.Unicode.ScriptTable

/-!
# Scripts

The scripts that patterns and host names ask for.
-/

namespace Gatehouse.Unicode

/-- The named scripts; `common` stands for all others. -/
inductive Script
  | common | latin | greek | cyrillic | armenian | hebrew | arabic | devanagari | bengali | thai
  | georgian | hangul | hiragana | katakana | han | tamil | ethiopic
  deriving DecidableEq, Repr

namespace Script

def all : List Script :=
  [common, latin, greek, cyrillic, armenian, hebrew, arabic, devanagari, bengali, thai,
   georgian, hangul, hiragana, katakana, han, tamil, ethiopic]

def name : Script → String
  | common => "common"
  | latin => "latin"
  | greek => "greek"
  | cyrillic => "cyrillic"
  | armenian => "armenian"
  | hebrew => "hebrew"
  | arabic => "arabic"
  | devanagari => "devanagari"
  | bengali => "bengali"
  | thai => "thai"
  | georgian => "georgian"
  | hangul => "hangul"
  | hiragana => "hiragana"
  | katakana => "katakana"
  | han => "han"
  | tamil => "tamil"
  | ethiopic => "ethiopic"

def code : Script → String
  | common => "zyyy"
  | latin => "latn"
  | greek => "grek"
  | cyrillic => "cyrl"
  | armenian => "armn"
  | hebrew => "hebr"
  | arabic => "arab"
  | devanagari => "deva"
  | bengali => "beng"
  | thai => "thai"
  | georgian => "geor"
  | hangul => "hang"
  | hiragana => "hira"
  | katakana => "kana"
  | han => "hani"
  | tamil => "taml"
  | ethiopic => "ethi"

end Script

def scripts : Runs := Runs.ofPacked 17 scriptRuns

def script (c : Nat) : Script := Script.all.getD (scripts.value c) .common

end Gatehouse.Unicode
