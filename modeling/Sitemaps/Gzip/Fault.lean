/-! Why compressed data cannot be expanded. -/

namespace Sitemaps.Gzip

inductive Fault
  | header
  | longField
  | checksum
  | corrupt
  | incomplete
  | ended
  | transfer (message : String)
  deriving DecidableEq, Repr

def Fault.message : Fault → String
  | .header => "invalid gzip header"
  | .longField => "gzip header field too long"
  | .checksum => "corrupt gzip stream does not have a matching checksum"
  | .corrupt => "corrupt deflate stream"
  | .incomplete => "incomplete deflate stream"
  | .ended => "unexpected end of file"
  | .transfer message => message

/-- Whether more data could have helped. -/
def Fault.isShortage : Fault → Bool
  | .incomplete | .ended => true
  | _ => false

end Sitemaps.Gzip
