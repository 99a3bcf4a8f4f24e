import Assessment.Gradebook.Approving
import Assessment.Gradebook.Viewing

/-!
# What responses say of gradebooks
-/

namespace Assessment.Gradebook

open Assessment.Number

def amountValue (a : Option Amount) : Value := .ofDecimal? (a.map Amount.toDecimal)

def weightValue (w : Option Amount) : Value := .ofDecimal? (w.map Amount.toWeight)

def summary (b : GradeBook) : Value :=
  .object [("grade_book_id", .int b.id), ("class_section_id", .int b.classSection),
    ("status", .text b.status.name), ("version", .int b.version),
    ("published_at", .ofInstant? b.publishedAt), ("locked_at", .ofInstant? b.lockedAt),
    ("updated_at", .ofInstant b.updatedAt)]

def itemReport (i : GradeItem) : Value :=
  .object [("grade_item_id", .int i.id), ("item_name", .text i.name),
    ("max_score", .decimal i.maxScore.toDecimal), ("weight", weightValue i.weight),
    ("is_required", .bool i.required), ("sort_order", i.order.value)]

def entryReport (e : GradeEntry) : Value :=
  .object [("grade_entry_id", .int e.id), ("grade_item_id", .int e.item),
    ("enrollment_id", .int e.enrollment), ("score", amountValue e.score),
    ("updated_by", .ofInt? e.updatedBy), ("updated_at", .ofInstant e.updatedAt)]

def approvalReport (a : Approval) : Value :=
  .object [("approval_id", .int a.id), ("outcome", .text a.outcome.name),
    ("request_by", .int a.requestedBy), ("request_at", .ofInstant a.requestedAt),
    ("request_message", .ofText? a.requestMessage), ("response_by", .ofInt? a.respondedBy),
    ("response_at", .ofInstant? a.respondedAt), ("response_message", .ofText? a.responseMessage)]

def BookDetail.report (d : BookDetail) : Value :=
  .object [("gradebook", summary d.book), ("items", .list (d.items.map itemReport)),
    ("entries", .list (d.entries.map entryReport)),
    ("latest_approval", (d.lastApproval.map approvalReport).getD .null)]

def ItemAdded.report (i : ItemAdded) : Value :=
  .object [("item", itemReport i.item), ("version", .int i.version)]

def BatchResult.report (r : BatchResult) : Value :=
  .object [("updated", .ofNat r.updated), ("version", .int r.version)]

/-- A book with a request or an answer. -/
def Review.report (r : Review) : Value :=
  .object [("gradebook", summary r.book), ("approval", approvalReport r.approval)]

end Assessment.Gradebook
