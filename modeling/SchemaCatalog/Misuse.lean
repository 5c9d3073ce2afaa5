/-! What cannot be done with a value: it is of the wrong kind for what was asked of it, or its text is not
that of the kind it is read as.
-/
namespace SchemaCatalog

inductive Misuse
  /-- a scalar was searched for a name -/
  | unsearchable
  /-- a list or a text was asked for an entry by name -/
  | unindexable
  /-- a value that is no object was asked for its members -/
  | memberless
  | memberMissing
  /-- a scalar was asked for its entries -/
  | unlistable
  /-- a list or an object stands where a name does -/
  | unnameable
  /-- entries of different kinds were to be put in order -/
  | unsortable
  /-- a text or a list of anything but pairs stands where members do -/
  | unpaired
  | unknownTag
  /-- a problem was stated with arguments it does not have -/
  | misstated
  /-- a number, a date or a character code lies outside its range, or is not spelled as one -/
  | outOfRange
  /-- a number exceeds what can be computed with -/
  | tooLarge
  | unknownFlag
  /-- a text read as a date has not its form -/
  | undated
  /-- a text read as a number is empty -/
  | digitless
  | directory
deriving DecidableEq, Repr

end SchemaCatalog
