import Assessment.Store.Transaction
import Assessment.Text.UpperCase

/-!
# What operations depend on

The clock, the settings, how deep the body of a request may nest, and, where they are replaced, the
directory and the choice of the grade item for a quiz.
-/

namespace Assessment

open Assessment.Time

/-- The settings. Those that are numbers are read when they are needed, and may then turn out not to
be numbers. -/
structure Settings where
  /-- The totals that a quiz may have. -/
  totals : Value
  /-- Is a score posted as soon as it is submitted? -/
  eager : Value
  /-- May scores be posted into a published book? -/
  lateCorrections : Value
  maxRuns : Value
  baseSeconds : Value
  batchSize : Value
  /-- How often a post that meets another writer is tried again. -/
  conflictRetries : Value
  deriving Repr

/-- The settings of a school that changes none. -/
def Settings.standard : Settings where
  totals := .list [.int 10, .int 20, .int 30]
  eager := .bool true
  lateCorrections := .bool false
  maxRuns := .int 5
  baseSeconds := .int 30
  batchSize := .int 50
  conflictRetries := .int 2

/-- The settings with one of them changed by name; other names mean nothing here. -/
def Settings.set (s : Settings) (name : String) (v : Value) : Settings :=
  match name with
  | "QUIZ_VALID_TOTAL_QUESTIONS" => { s with totals := v }
  | "SCORE_SYNC_EAGER" => { s with eager := v }
  | "SCORE_SYNC_ALLOW_LATE_CORRECTIONS" => { s with lateCorrections := v }
  | "SCORE_SYNC_MAX_RETRIES" => { s with maxRuns := v }
  | "SCORE_SYNC_RETRY_BASE_SECONDS" => { s with baseSeconds := v }
  | "SCORE_SYNC_BATCH_SIZE" => { s with batchSize := v }
  | "SCORE_SYNC_CONFLICT_RETRIES" => { s with conflictRetries := v }
  | _ => s

/-- The settings with several of them changed by name. -/
def Settings.setAll (s : Settings) (values : List (String × Value)) : Settings :=
  values.foldl (fun s v => s.set v.1 v.2) s

/-- What an operation depends on besides the store. -/
structure Context where
  now : Instant
  settings : Settings
  /-- A directory in place of the registration tables. -/
  directory? : Option Access.Directory
  /-- What is given as an item in place of the one that the names of items give. -/
  item? : Option Value
  /-- How many lists and objects in the body of a request may be open at once. -/
  nesting : Nat
  deriving Repr

def Context.directory (c : Context) (s : Store) : Access.Directory :=
  c.directory?.getD s.directory

/-- A switch of the surroundings: on if it says so in one of four words, and as given if it is not
set. -/
def readSwitch (unset : Value) : Option String → Value
  | none => unset
  | some s => .bool (["1", "true", "yes", "on"].contains (Text.lowerLatin (Text.trim s)))

/-- The totals that a quiz may have, one by one. -/
def Settings.allowedTotals (s : Settings) : Except Fault (List Value) :=
  (s.totals.elements).mapError .crashed

def readSetting (v : Value) : Except Fault Int := v.toInteger.mapError .crashed

end Assessment
