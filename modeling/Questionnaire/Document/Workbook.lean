import Questionnaire.Json.Decoding
import Questionnaire.Workbook

/-!
# Workbooks as documents

A workbook whose worksheets and rows are already taken apart is kept as a JSON document.

Main definitions:

* `Workbook.ofJson?`: the workbook of a text.
-/

namespace Questionnaire

open Json (Tree)

def Row.ofTree? (tree : Tree) : Option Row := do
  let fields ← tree.record? ["number", "cells"]
  return {
    number := ← Tree.required? fields "number" Tree.word32?
    cells := ← Tree.required? fields "cells" (Tree.list? (Tree.nullable? Tree.text?)) }

def Worksheet.ofTree? (tree : Tree) : Option Worksheet := do
  let fields ← tree.record? ["name", "rows"]
  return {
    name := ← Tree.required? fields "name" Tree.text?
    rows := ← Tree.required? fields "rows" (Tree.list? Row.ofTree?) }

def Workbook.ofTree? (tree : Tree) : Option Workbook := do
  let fields ← tree.record? ["worksheets"]
  return { worksheets := ← Tree.required? fields "worksheets" (Tree.list? Worksheet.ofTree?) }

def Workbook.ofJson? (text : String) : Option Workbook := (Tree.ofText? text).bind Workbook.ofTree?

end Questionnaire
