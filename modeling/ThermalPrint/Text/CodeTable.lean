/-
Single-byte code pages whose lower half is not that of ASCII.
-/

namespace ThermalPrint
namespace Text

/-- The characters of all bytes of a code page; U+FFFD stands where a byte has none. -/
structure CodeTable where
  name : String
  characters : String

def codeTables : List CodeTable :=
  [
   ⟨"cp037",
    "\u0000\u0001\u0002\u0003\u009c\u0009\u0086\u007f\u0097\u008d\u008e\u000b"
    ++ "\u000c\u000d\u000e\u000f\u0010\u0011\u0012\u0013\u009d\u0085\u0008\u0087"
    ++ "\u0018\u0019\u0092\u008f\u001c\u001d\u001e\u001f\u0080\u0081\u0082\u0083"
    ++ "\u0084\u000a\u0017\u001b\u0088\u0089\u008a\u008b\u008c\u0005\u0006\u0007"
    ++ "\u0090\u0091\u0016\u0093\u0094\u0095\u0096\u0004\u0098\u0099\u009a\u009b"
    ++ "\u0014\u0015\u009e\u001a\u0020\u00a0âäàáãå"
    ++ "çñ¢.<(+|&éêë"
    ++ "èíîïìß!$*);¬"
    ++ "-/ÂÄÀÁÃÅÇÑ¦,"
    ++ "%_>?øÉÊËÈÍÎÏ"
    ++ "Ì`:#@'=\"Øabc"
    ++ "defghi«»ðýþ±"
    ++ "°jklmnopqrªº"
    ++ "æ¸Æ¤µ~stuvwx"
    ++ "yz¡¿ÐÝÞ®^£¥·"
    ++ "©§¶¼½¾[]¯¨´×"
    ++ "\x7bABCDEFGHI\u00adô"
    ++ "öòóõ\x7dJKLMNOP"
    ++ "QR¹ûüùúÿ\\÷ST"
    ++ "UVWXYZ²ÔÖÒÓÕ"
    ++ "0123456789³Û"
    ++ "ÜÙÚ\u009f"⟩,
   ⟨"cp1026",
    "\u0000\u0001\u0002\u0003\u009c\u0009\u0086\u007f\u0097\u008d\u008e\u000b"
    ++ "\u000c\u000d\u000e\u000f\u0010\u0011\u0012\u0013\u009d\u0085\u0008\u0087"
    ++ "\u0018\u0019\u0092\u008f\u001c\u001d\u001e\u001f\u0080\u0081\u0082\u0083"
    ++ "\u0084\u000a\u0017\u001b\u0088\u0089\u008a\u008b\u008c\u0005\u0006\u0007"
    ++ "\u0090\u0091\u0016\u0093\u0094\u0095\u0096\u0004\u0098\u0099\u009a\u009b"
    ++ "\u0014\u0015\u009e\u001a\u0020\u00a0âäàáãå"
    ++ "\x7bñÇ.<(+!&éêë"
    ++ "èíîïìßĞİ*);^"
    ++ "-/ÂÄÀÁÃÅ[Ñş,"
    ++ "%_>?øÉÊËÈÍÎÏ"
    ++ "Ìı:ÖŞ'=ÜØabc"
    ++ "defghi«»\x7d`¦±"
    ++ "°jklmnopqrªº"
    ++ "æ¸Æ¤µöstuvwx"
    ++ "yz¡¿]$@®¢£¥·"
    ++ "©§¶¼½¾¬|¯¨´×"
    ++ "çABCDEFGHI\u00adô"
    ++ "~òóõğJKLMNOP"
    ++ "QR¹û\\ùúÿü÷ST"
    ++ "UVWXYZ²Ô#ÒÓÕ"
    ++ "0123456789³Û"
    ++ "\"ÙÚ\u009f"⟩,
   ⟨"cp1140",
    "\u0000\u0001\u0002\u0003\u009c\u0009\u0086\u007f\u0097\u008d\u008e\u000b"
    ++ "\u000c\u000d\u000e\u000f\u0010\u0011\u0012\u0013\u009d\u0085\u0008\u0087"
    ++ "\u0018\u0019\u0092\u008f\u001c\u001d\u001e\u001f\u0080\u0081\u0082\u0083"
    ++ "\u0084\u000a\u0017\u001b\u0088\u0089\u008a\u008b\u008c\u0005\u0006\u0007"
    ++ "\u0090\u0091\u0016\u0093\u0094\u0095\u0096\u0004\u0098\u0099\u009a\u009b"
    ++ "\u0014\u0015\u009e\u001a\u0020\u00a0âäàáãå"
    ++ "çñ¢.<(+|&éêë"
    ++ "èíîïìß!$*);¬"
    ++ "-/ÂÄÀÁÃÅÇÑ¦,"
    ++ "%_>?øÉÊËÈÍÎÏ"
    ++ "Ì`:#@'=\"Øabc"
    ++ "defghi«»ðýþ±"
    ++ "°jklmnopqrªº"
    ++ "æ¸Æ€µ~stuvwx"
    ++ "yz¡¿ÐÝÞ®^£¥·"
    ++ "©§¶¼½¾[]¯¨´×"
    ++ "\x7bABCDEFGHI\u00adô"
    ++ "öòóõ\x7dJKLMNOP"
    ++ "QR¹ûüùúÿ\\÷ST"
    ++ "UVWXYZ²ÔÖÒÓÕ"
    ++ "0123456789³Û"
    ++ "ÜÙÚ\u009f"⟩,
   ⟨"cp273",
    "\u0000\u0001\u0002\u0003\u009c\u0009\u0086\u007f\u0097\u008d\u008e\u000b"
    ++ "\u000c\u000d\u000e\u000f\u0010\u0011\u0012\u0013\u009d\u0085\u0008\u0087"
    ++ "\u0018\u0019\u0092\u008f\u001c\u001d\u001e\u001f\u0080\u0081\u0082\u0083"
    ++ "\u0084\u000a\u0017\u001b\u0088\u0089\u008a\u008b\u008c\u0005\u0006\u0007"
    ++ "\u0090\u0091\u0016\u0093\u0094\u0095\u0096\u0004\u0098\u0099\u009a\u009b"
    ++ "\u0014\u0015\u009e\u001a\u0020\u00a0â\x7bàáãå"
    ++ "çñÄ.<(+!&éêë"
    ++ "èíîïì~Ü$*);^"
    ++ "-/Â[ÀÁÃÅÇÑö,"
    ++ "%_>?øÉÊËÈÍÎÏ"
    ++ "Ì`:#§'=\"Øabc"
    ++ "defghi«»ðýþ±"
    ++ "°jklmnopqrªº"
    ++ "æ¸Æ¤µßstuvwx"
    ++ "yz¡¿ÐÝÞ®¢£¥·"
    ++ "©@¶¼½¾¬|‾¨´×"
    ++ "äABCDEFGHI\u00adô"
    ++ "¦òóõüJKLMNOP"
    ++ "QR¹û\x7dùúÿÖ÷ST"
    ++ "UVWXYZ²Ô\\ÒÓÕ"
    ++ "0123456789³Û"
    ++ "]ÙÚ\u009f"⟩,
   ⟨"cp424",
    "\u0000\u0001\u0002\u0003\u009c\u0009\u0086\u007f\u0097\u008d\u008e\u000b"
    ++ "\u000c\u000d\u000e\u000f\u0010\u0011\u0012\u0013\u009d\u0085\u0008\u0087"
    ++ "\u0018\u0019\u0092\u008f\u001c\u001d\u001e\u001f\u0080\u0081\u0082\u0083"
    ++ "\u0084\u000a\u0017\u001b\u0088\u0089\u008a\u008b\u008c\u0005\u0006\u0007"
    ++ "\u0090\u0091\u0016\u0093\u0094\u0095\u0096\u0004\u0098\u0099\u009a\u009b"
    ++ "\u0014\u0015\u009e\u001a\u0020\u05d0\u05d1\u05d2\u05d3\u05d4\u05d5\u05d6"
    ++ "\u05d7\u05d8¢.<(+|&\u05d9\u05da\u05db"
    ++ "\u05dc\u05dd\u05de\u05df\u05e0\u05e1!$*);¬"
    ++ "-/\u05e2\u05e3\u05e4\u05e5\u05e6\u05e7\u05e8\u05e9¦,"
    ++ "%_>?�\u05ea��\u00a0���"
    ++ "‗`:#@'=\"�abc"
    ++ "defghi«»���±"
    ++ "°jklmnopqr��"
    ++ "�¸�¤µ~stuvwx"
    ++ "yz�����®^£¥·"
    ++ "©§¶¼½¾[]¯¨´×"
    ++ "\x7bABCDEFGHI\u00ad�"
    ++ "����\x7dJKLMNOP"
    ++ "QR¹�����\\÷ST"
    ++ "UVWXYZ²�����"
    ++ "0123456789³�"
    ++ "���\u009f"⟩,
   ⟨"cp500",
    "\u0000\u0001\u0002\u0003\u009c\u0009\u0086\u007f\u0097\u008d\u008e\u000b"
    ++ "\u000c\u000d\u000e\u000f\u0010\u0011\u0012\u0013\u009d\u0085\u0008\u0087"
    ++ "\u0018\u0019\u0092\u008f\u001c\u001d\u001e\u001f\u0080\u0081\u0082\u0083"
    ++ "\u0084\u000a\u0017\u001b\u0088\u0089\u008a\u008b\u008c\u0005\u0006\u0007"
    ++ "\u0090\u0091\u0016\u0093\u0094\u0095\u0096\u0004\u0098\u0099\u009a\u009b"
    ++ "\u0014\u0015\u009e\u001a\u0020\u00a0âäàáãå"
    ++ "çñ[.<(+!&éêë"
    ++ "èíîïìß]$*);^"
    ++ "-/ÂÄÀÁÃÅÇÑ¦,"
    ++ "%_>?øÉÊËÈÍÎÏ"
    ++ "Ì`:#@'=\"Øabc"
    ++ "defghi«»ðýþ±"
    ++ "°jklmnopqrªº"
    ++ "æ¸Æ¤µ~stuvwx"
    ++ "yz¡¿ÐÝÞ®¢£¥·"
    ++ "©§¶¼½¾¬|¯¨´×"
    ++ "\x7bABCDEFGHI\u00adô"
    ++ "öòóõ\x7dJKLMNOP"
    ++ "QR¹ûüùúÿ\\÷ST"
    ++ "UVWXYZ²ÔÖÒÓÕ"
    ++ "0123456789³Û"
    ++ "ÜÙÚ\u009f"⟩,
   ⟨"cp864",
    "\u0000\u0001\u0002\u0003\u0004\u0005\u0006\u0007\u0008\u0009\u000a\u000b"
    ++ "\u000c\u000d\u000e\u000f\u0010\u0011\u0012\u0013\u0014\u0015\u0016\u0017"
    ++ "\u0018\u0019\u001a\u001b\u001c\u001d\u001e\u001f\u0020!\"#"
    ++ "$٪&'()*+,-./"
    ++ "0123456789:;"
    ++ "<=>?@ABCDEFG"
    ++ "HIJKLMNOPQRS"
    ++ "TUVWXYZ[\\]^_"
    ++ "`abcdefghijk"
    ++ "lmnopqrstuvw"
    ++ "xyz\x7b|\x7d~\u007f°·∙√"
    ++ "▒─│┼┤┬├┴┐┌└┘"
    ++ "β∞φ±½¼≈«»\ufef7\ufef8�"
    ++ "�\ufefb\ufefc�\u00a0\u00ad\ufe82£¤\ufe84��"
    ++ "\ufe8e\ufe8f\ufe95\ufe99،\ufe9d\ufea1\ufea5\u0660\u0661\u0662\u0663"
    ++ "\u0664\u0665\u0666\u0667\u0668\u0669\ufed1\u061b\ufeb1\ufeb5\ufeb9\u061f"
    ++ "¢\ufe80\ufe81\ufe83\ufe85\ufeca\ufe8b\ufe8d\ufe91\ufe93\ufe97\ufe9b"
    ++ "\ufe9f\ufea3\ufea7\ufea9\ufeab\ufead\ufeaf\ufeb3\ufeb7\ufebb\ufebf\ufec1"
    ++ "\ufec5\ufecb\ufecf¦¬÷×\ufec9\u0640\ufed3\ufed7\ufedb"
    ++ "\ufedf\ufee3\ufee7\ufeeb\ufeed\ufeef\ufef3\ufebd\ufecc\ufece\ufecd\ufee1"
    ++ "\ufe7d\u0651\ufee5\ufee9\ufeec\ufef0\ufef2\ufed0\ufed5\ufef5\ufef6\ufedd"
    ++ "\ufed9\ufef1■�"⟩,
   ⟨"cp875",
    "\u0000\u0001\u0002\u0003\u009c\u0009\u0086\u007f\u0097\u008d\u008e\u000b"
    ++ "\u000c\u000d\u000e\u000f\u0010\u0011\u0012\u0013\u009d\u0085\u0008\u0087"
    ++ "\u0018\u0019\u0092\u008f\u001c\u001d\u001e\u001f\u0080\u0081\u0082\u0083"
    ++ "\u0084\u000a\u0017\u001b\u0088\u0089\u008a\u008b\u008c\u0005\u0006\u0007"
    ++ "\u0090\u0091\u0016\u0093\u0094\u0095\u0096\u0004\u0098\u0099\u009a\u009b"
    ++ "\u0014\u0015\u009e�\u0020ΑΒΓΔΕΖΗ"
    ++ "ΘΙ[.<(+!&ΚΛΜ"
    ++ "ΝΞΟΠΡΣ]$*);^"
    ++ "-/ΤΥΦΧΨΩΪΫ|,"
    ++ "%_>?¨ΆΈΉ\u00a0ΊΌΎ"
    ++ "Ώ`:#@'=\"΅abc"
    ++ "defghiαβγδεζ"
    ++ "°jklmnopqrηθ"
    ++ "ικλμ´~stuvwx"
    ++ "yzνξοπρσ£άέή"
    ++ "ϊίόύϋώςτυφχψ"
    ++ "\x7bABCDEFGHI\u00adω"
    ++ "ΐΰ‘―\x7dJKLMNOP"
    ++ "QR±½�·’¦\\�ST"
    ++ "UVWXYZ²§��«¬"
    ++ "0123456789³©"
    ++ "�\u001a»\u009f"⟩,
   ⟨"mac_arabic",
    "\u0000\u0001\u0002\u0003\u0004\u0005\u0006\u0007\u0008\u0009\u000a\u000b"
    ++ "\u000c\u000d\u000e\u000f\u0010\u0011\u0012\u0013\u0014\u0015\u0016\u0017"
    ++ "\u0018\u0019\u001a\u001b\u001c\u001d\u001e\u001f����"
    ++ "�%������,���"
    ++ "0123456789�;"
    ++ "���?@ABCDEFG"
    ++ "HIJKLMNOPQRS"
    ++ "TUVWXYZ�����"
    ++ "`abcdefghijk"
    ++ "lmnopqrstuvw"
    ++ "xyz���~\u007fÄ\u00a0ÇÉ"
    ++ "ÑÖÜáàâä\u06ba«çéè"
    ++ "êëí…îïñó»ôö÷"
    ++ "úùûü\u0020!\"#$٪&'"
    ++ "()*+،-./\u0660\u0661\u0662\u0663"
    ++ "\u0664\u0665\u0666\u0667\u0668\u0669:\u061b<=>\u061f"
    ++ "❊\u0621\u0622\u0623\u0624\u0625\u0626\u0627\u0628\u0629\u062a\u062b"
    ++ "\u062c\u062d\u062e\u062f\u0630\u0631\u0632\u0633\u0634\u0635\u0636\u0637"
    ++ "\u0638\u0639\u063a[\\]^_\u0640\u0641\u0642\u0643"
    ++ "\u0644\u0645\u0646\u0647\u0648\u0649\u064a\u064b\u064c\u064d\u064e\u064f"
    ++ "\u0650\u0651\u0652\u067e\u0679\u0686\u06d5\u06a4\u06af\u0688\u0691\x7b"
    ++ "|\x7d\u0698\u06d2"⟩,
   ⟨"mac_farsi",
    "\u0000\u0001\u0002\u0003\u0004\u0005\u0006\u0007\u0008\u0009\u000a\u000b"
    ++ "\u000c\u000d\u000e\u000f\u0010\u0011\u0012\u0013\u0014\u0015\u0016\u0017"
    ++ "\u0018\u0019\u001a\u001b\u001c\u001d\u001e\u001f����"
    ++ "�%������,���"
    ++ "0123456789�;"
    ++ "���?@ABCDEFG"
    ++ "HIJKLMNOPQRS"
    ++ "TUVWXYZ�����"
    ++ "`abcdefghijk"
    ++ "lmnopqrstuvw"
    ++ "xyz���~\u007fÄ\u00a0ÇÉ"
    ++ "ÑÖÜáàâä\u06ba«çéè"
    ++ "êëí…îïñó»ôö÷"
    ++ "úùûü\u0020!\"#$٪&'"
    ++ "()*+،-./۰۱۲۳"
    ++ "۴۵۶۷۸۹:\u061b<=>\u061f"
    ++ "❊\u0621\u0622\u0623\u0624\u0625\u0626\u0627\u0628\u0629\u062a\u062b"
    ++ "\u062c\u062d\u062e\u062f\u0630\u0631\u0632\u0633\u0634\u0635\u0636\u0637"
    ++ "\u0638\u0639\u063a[\\]^_\u0640\u0641\u0642\u0643"
    ++ "\u0644\u0645\u0646\u0647\u0648\u0649\u064a\u064b\u064c\u064d\u064e\u064f"
    ++ "\u0650\u0651\u0652\u067e\u0679\u0686\u06d5\u06a4\u06af\u0688\u0691\x7b"
    ++ "|\x7d\u0698\u06d2"⟩
  ]

end Text
end ThermalPrint
