import LintChain.Unicode.Ranges

/-!
The code points that stand for no visible character, what is not assigned apart.
-/

namespace LintChain.Unicode

def control : Ranges := Ranges.ofText [
    "0-1F 7F-9F"]

def format : Ranges := Ranges.ofText [
    "AD 600-605 61C 6DD 70F 890-891 8E2 180E 200B-200F 202A-202E 2060-2064 2066-206F FEFF",
    "FFF9-FFFB 110BD 110CD 13430-1343F 1BCA0-1BCA3 1D173-1D17A E0001 E0020-E007F"]

def privateUse : Ranges := Ranges.ofText [
    "E000-F8FF F0000-FFFFD 100000-10FFFD"]

end LintChain.Unicode
