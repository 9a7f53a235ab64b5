import Gherkin.Document.Reader

namespace Gherkin

/-!
# Reading feature files

`parseLines` reads a document from its lines and `parse` from the text of a
file.  Both give either the document or all faults found in it.

A file is cut at its newlines.  The newline that ends the last line starts no
further one, and a byte-order mark at the beginning is no part of line 1.
-/

/-- The mark that may stand at the beginning of a file. -/
def byteOrderMark : Char :=
  '\ufeff'

/-- The lines of a file. -/
def fileLines (source : Text) : List Text :=
  let pieces := ((([byteOrderMark].isPrefixOf? source).getD source)).splitOn '\n'
  if pieces.getLast? = some [] then pieces.dropLast else pieces

/-- The document read from numbered lines, and everything that is faulty in it. -/
def readDocument (settings : Settings) (uri : Text) (lines : List Line) : Document × Report :=
  let result := (Document.Reader.empty settings).readAll settings lines
  (result.1.finish uri, ((Report.empty uri).add result.2).add result.1.endFaults)

/-- Read a document from its lines, which are numbered from 1. -/
def parseLines (settings : Settings) (uri : Text) (lines : List Text) :
    Except Rejection Document :=
  let result := readDocument settings uri (Line.numberFrom 1 lines)
  result.2.outcome result.1

/-- Read a document from the text of a file. -/
def parse (settings : Settings) (uri : Text) (source : Text) : Except Rejection Document :=
  parseLines settings uri (fileLines source)

end Gherkin
