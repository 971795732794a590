import Roster.Proofs.FailingStatement

/-! Errors at the end of a statement. Tokens are unterminated if a full stop behind them would make
them a program, and a terminator is refused if a full stop in its place would; what is expected
instead are the terminators that would do. -/
namespace Roster
open Vocabulary Statement

variable {ts post : List Token} {t : Token} {m : Modifier} {ops : List Operation}
  {op : Operation} {e : ParseError}

namespace Unended

end Unended

namespace Unended

end Unended

end Roster
