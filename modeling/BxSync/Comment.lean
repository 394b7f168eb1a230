import BxSync.Lib.Machine
import BxSync.UpsertSql

/-! The comments of the documents (`sync_more.c`): each is stored with the type and the id of its document, whose id is
    the parent of the row. -/

namespace BxSync

/-- The kinds of documents that have comments, as the paths of the service name them. -/
inductive DocumentType
  | kbOffer
  | kbOrder
  | kbDelivery
  | kbInvoice
deriving DecidableEq, Repr

def DocumentType.text : DocumentType → List UInt8
  | .kbOffer => asciiBytes "kb_offer"
  | .kbOrder => asciiBytes "kb_order"
  | .kbDelivery => asciiBytes "kb_delivery"
  | .kbInvoice => asciiBytes "kb_invoice"

/-- `json_object_set_new`, which only an object takes. -/
def Json.set (value : Json) (key : String) (field : Json) : Json :=
  match value with
  | .object fields => .object ((key, field) :: fields.filter fun f => f.1 ≠ key)
  | value => value

/-- The fields of a comment, and its parent. -/
def commentTable : UpsertTable where
  table := "kb_comment"
  fields :=
    [⟨"id", none, .uint⟩, ⟨"text", none, .str⟩, ⟨"user_id", none, .uint⟩, ⟨"user_name", none, .str⟩, ⟨"date", none, .str⟩,
      ⟨"is_public", none, .bool⟩, ⟨"_document_type", none, .str⟩]
  parentSql := some "_document_id"

/-- A comment of a document, when it is stored, and how its statements meet the server. -/
structure CommentInput where
  documentType : DocumentType
  documentId : UInt64
  comment : Json
  now : UInt64
  answers : UpsertAnswers

/-- The comment with the type of its document. -/
def CommentInput.object (c : CommentInput) : Json := c.comment.set "_document_type" (.string c.documentType.text)

/-- The write ran, whether or not its reply arrived. -/
def UpsertAnswers.wrote (a : UpsertAnswers) : Bool :=
  a.writePrepared &&
    match a.write with
    | .unsent _ => false
    | .ran fkError _ => !fkError
    | .unreported fkError _ _ => !fkError

/-- A comment, the tables it was stored in, and whether they have it afterwards, by a write or because its checksum was
    there. -/
structure CommentCall where
  pre : SqlTables
  input : CommentInput
  stored : Bool

section

variable {κ : Type} [DecidableEq κ] (serverKey : SqlValue → κ) (lib : TextLib) (xxh3 : List UInt8 → UInt64)

/-- Storing one comment of a document. -/
def commentStep (tables : SqlTables) (c : CommentInput) : CommentCall × SqlTables :=
  match bxJsonUpsertSql serverKey lib xxh3 commentTable tables c.object c.documentId c.now c.answers with
  | none => ({ pre := tables, input := c, stored := false }, tables)
  | some (_, next, ended) =>
    ({ pre := tables, input := c, stored := ended = .skipped || (ended = .sent && c.answers.wrote) }, next)

end

end BxSync
