import Mathlib.Data.List.Basic

/-! The table of HTML entities (`include/bx_html_entities.h`), in the order of the source. -/

namespace BxSync

/-- `elen` and `ulen` are the lengths of the two texts in bytes, as the source has them. -/
structure BXHtmlEntity where
  entity : String
  utf8 : String
  elen : Nat
  ulen : Nat
deriving DecidableEq, Repr

/-- `BXHTMLEntities`, without its last entry. -/
def bxHtmlEntities : List BXHtmlEntity :=
  [ ⟨"&Tab;", "\t", 5, 1⟩, ⟨"&NewLine;", "\n", 9, 1⟩, ⟨"&excl;", "!", 6, 1⟩, ⟨"&quot;", "\"", 6, 1⟩,
    ⟨"&num;", "#", 5, 1⟩, ⟨"&dollar;", "$", 8, 1⟩, ⟨"&percnt;", "%", 8, 1⟩, ⟨"&amp;", "&", 5, 1⟩,
    ⟨"&apos;", "'", 6, 1⟩, ⟨"&lpar;", "(", 6, 1⟩, ⟨"&rpar;", ")", 6, 1⟩, ⟨"&ast;", "*", 5, 1⟩, ⟨"&plus;", "+", 6, 1⟩,
    ⟨"&comma;", ",", 7, 1⟩, ⟨"&period;", ".", 8, 1⟩, ⟨"&sol;", "/", 5, 1⟩, ⟨"&colon;", ":", 7, 1⟩,
    ⟨"&semi;", ";", 6, 1⟩, ⟨"&lt;", "<", 4, 1⟩, ⟨"&nvlt;", "<⃒", 6, 4⟩, ⟨"&equals;", "=", 8, 1⟩,
    ⟨"&bne;", "=⃥", 5, 4⟩, ⟨"&gt;", ">", 4, 1⟩, ⟨"&nvgt;", ">⃒", 6, 4⟩, ⟨"&quest;", "?", 7, 1⟩,
    ⟨"&commat;", "@", 8, 1⟩, ⟨"&lbrack;", "[", 8, 1⟩, ⟨"&bsol;", "\\", 6, 1⟩, ⟨"&rsqb;", "]", 6, 1⟩,
    ⟨"&Hat;", "^", 5, 1⟩, ⟨"&lowbar;", "_", 8, 1⟩, ⟨"&grave;", "`", 7, 1⟩, ⟨"&fjlig;", "fj", 7, 2⟩,
    ⟨"&lbrace;", "\x7b", 8, 1⟩, ⟨"&vert;", "|", 6, 1⟩, ⟨"&rcub;", "\x7d", 6, 1⟩, ⟨"&nbsp;", "\u00a0", 6, 2⟩,
    ⟨"&iexcl;", "¡", 7, 2⟩, ⟨"&cent;", "¢", 6, 2⟩, ⟨"&pound;", "£", 7, 2⟩, ⟨"&curren;", "¤", 8, 2⟩,
    ⟨"&yen;", "¥", 5, 2⟩, ⟨"&brvbar;", "¦", 8, 2⟩, ⟨"&sect;", "§", 6, 2⟩, ⟨"&DoubleDot;", "¨", 11, 2⟩,
    ⟨"&copy;", "©", 6, 2⟩, ⟨"&ordf;", "ª", 6, 2⟩, ⟨"&laquo;", "«", 7, 2⟩, ⟨"&not;", "¬", 5, 2⟩,
    ⟨"&shy;", "\u00ad", 5, 2⟩, ⟨"&reg;", "®", 5, 2⟩, ⟨"&macr;", "¯", 6, 2⟩, ⟨"&deg;", "°", 5, 2⟩,
    ⟨"&plusmn;", "±", 8, 2⟩, ⟨"&sup2;", "²", 6, 2⟩, ⟨"&sup3;", "³", 6, 2⟩, ⟨"&DiacriticalAcute;", "´", 18, 2⟩,
    ⟨"&micro;", "µ", 7, 2⟩, ⟨"&para;", "¶", 6, 2⟩, ⟨"&CenterDot;", "·", 11, 2⟩, ⟨"&Cedilla;", "¸", 9, 2⟩,
    ⟨"&sup1;", "¹", 6, 2⟩, ⟨"&ordm;", "º", 6, 2⟩, ⟨"&raquo;", "»", 7, 2⟩, ⟨"&frac14;", "¼", 8, 2⟩,
    ⟨"&half;", "½", 6, 2⟩, ⟨"&frac34;", "¾", 8, 2⟩, ⟨"&iquest;", "¿", 8, 2⟩, ⟨"&Agrave;", "À", 8, 2⟩,
    ⟨"&Aacute;", "Á", 8, 2⟩, ⟨"&Acirc;", "Â", 7, 2⟩, ⟨"&Atilde;", "Ã", 8, 2⟩, ⟨"&Auml;", "Ä", 6, 2⟩,
    ⟨"&Aring;", "Å", 7, 2⟩, ⟨"&AElig;", "Æ", 7, 2⟩, ⟨"&Ccedil;", "Ç", 8, 2⟩, ⟨"&Egrave;", "È", 8, 2⟩,
    ⟨"&Eacute;", "É", 8, 2⟩, ⟨"&Ecirc;", "Ê", 7, 2⟩, ⟨"&Euml;", "Ë", 6, 2⟩, ⟨"&Igrave;", "Ì", 8, 2⟩,
    ⟨"&Iacute;", "Í", 8, 2⟩, ⟨"&Icirc;", "Î", 7, 2⟩, ⟨"&Iuml;", "Ï", 6, 2⟩, ⟨"&ETH;", "Ð", 5, 2⟩,
    ⟨"&Ntilde;", "Ñ", 8, 2⟩, ⟨"&Ograve;", "Ò", 8, 2⟩, ⟨"&Oacute;", "Ó", 8, 2⟩, ⟨"&Ocirc;", "Ô", 7, 2⟩,
    ⟨"&Otilde;", "Õ", 8, 2⟩, ⟨"&Ouml;", "Ö", 6, 2⟩, ⟨"&times;", "×", 7, 2⟩, ⟨"&Oslash;", "Ø", 8, 2⟩,
    ⟨"&Ugrave;", "Ù", 8, 2⟩, ⟨"&Uacute;", "Ú", 8, 2⟩, ⟨"&Ucirc;", "Û", 7, 2⟩, ⟨"&Uuml;", "Ü", 6, 2⟩,
    ⟨"&Yacute;", "Ý", 8, 2⟩, ⟨"&THORN;", "Þ", 7, 2⟩, ⟨"&szlig;", "ß", 7, 2⟩, ⟨"&agrave;", "à", 8, 2⟩,
    ⟨"&aacute;", "á", 8, 2⟩, ⟨"&acirc;", "â", 7, 2⟩, ⟨"&atilde;", "ã", 8, 2⟩, ⟨"&auml;", "ä", 6, 2⟩,
    ⟨"&aring;", "å", 7, 2⟩, ⟨"&aelig;", "æ", 7, 2⟩, ⟨"&ccedil;", "ç", 8, 2⟩, ⟨"&egrave;", "è", 8, 2⟩,
    ⟨"&eacute;", "é", 8, 2⟩, ⟨"&ecirc;", "ê", 7, 2⟩, ⟨"&euml;", "ë", 6, 2⟩, ⟨"&igrave;", "ì", 8, 2⟩,
    ⟨"&iacute;", "í", 8, 2⟩, ⟨"&icirc;", "î", 7, 2⟩, ⟨"&iuml;", "ï", 6, 2⟩, ⟨"&eth;", "ð", 5, 2⟩,
    ⟨"&ntilde;", "ñ", 8, 2⟩, ⟨"&ograve;", "ò", 8, 2⟩, ⟨"&oacute;", "ó", 8, 2⟩, ⟨"&ocirc;", "ô", 7, 2⟩,
    ⟨"&otilde;", "õ", 8, 2⟩, ⟨"&ouml;", "ö", 6, 2⟩, ⟨"&divide;", "÷", 8, 2⟩, ⟨"&oslash;", "ø", 8, 2⟩,
    ⟨"&ugrave;", "ù", 8, 2⟩, ⟨"&uacute;", "ú", 8, 2⟩, ⟨"&ucirc;", "û", 7, 2⟩, ⟨"&uuml;", "ü", 6, 2⟩,
    ⟨"&yacute;", "ý", 8, 2⟩, ⟨"&thorn;", "þ", 7, 2⟩, ⟨"&yuml;", "ÿ", 6, 2⟩, ⟨"&Amacr;", "Ā", 7, 2⟩,
    ⟨"&amacr;", "ā", 7, 2⟩, ⟨"&Abreve;", "Ă", 8, 2⟩, ⟨"&abreve;", "ă", 8, 2⟩, ⟨"&Aogon;", "Ą", 7, 2⟩,
    ⟨"&aogon;", "ą", 7, 2⟩, ⟨"&Cacute;", "Ć", 8, 2⟩, ⟨"&cacute;", "ć", 8, 2⟩, ⟨"&Ccirc;", "Ĉ", 7, 2⟩,
    ⟨"&ccirc;", "ĉ", 7, 2⟩, ⟨"&Cdot;", "Ċ", 6, 2⟩, ⟨"&cdot;", "ċ", 6, 2⟩, ⟨"&Ccaron;", "Č", 8, 2⟩,
    ⟨"&ccaron;", "č", 8, 2⟩, ⟨"&Dcaron;", "Ď", 8, 2⟩, ⟨"&dcaron;", "ď", 8, 2⟩, ⟨"&Dstrok;", "Đ", 8, 2⟩,
    ⟨"&dstrok;", "đ", 8, 2⟩, ⟨"&Emacr;", "Ē", 7, 2⟩, ⟨"&emacr;", "ē", 7, 2⟩, ⟨"&Edot;", "Ė", 6, 2⟩,
    ⟨"&edot;", "ė", 6, 2⟩, ⟨"&Eogon;", "Ę", 7, 2⟩, ⟨"&eogon;", "ę", 7, 2⟩, ⟨"&Ecaron;", "Ě", 8, 2⟩,
    ⟨"&ecaron;", "ě", 8, 2⟩, ⟨"&Gcirc;", "Ĝ", 7, 2⟩, ⟨"&gcirc;", "ĝ", 7, 2⟩, ⟨"&Gbreve;", "Ğ", 8, 2⟩,
    ⟨"&gbreve;", "ğ", 8, 2⟩, ⟨"&Gdot;", "Ġ", 6, 2⟩, ⟨"&gdot;", "ġ", 6, 2⟩, ⟨"&Gcedil;", "Ģ", 8, 2⟩,
    ⟨"&Hcirc;", "Ĥ", 7, 2⟩, ⟨"&hcirc;", "ĥ", 7, 2⟩, ⟨"&Hstrok;", "Ħ", 8, 2⟩, ⟨"&hstrok;", "ħ", 8, 2⟩,
    ⟨"&Itilde;", "Ĩ", 8, 2⟩, ⟨"&itilde;", "ĩ", 8, 2⟩, ⟨"&Imacr;", "Ī", 7, 2⟩, ⟨"&imacr;", "ī", 7, 2⟩,
    ⟨"&Iogon;", "Į", 7, 2⟩, ⟨"&iogon;", "į", 7, 2⟩, ⟨"&Idot;", "İ", 6, 2⟩, ⟨"&inodot;", "ı", 8, 2⟩,
    ⟨"&IJlig;", "Ĳ", 7, 2⟩, ⟨"&ijlig;", "ĳ", 7, 2⟩, ⟨"&Jcirc;", "Ĵ", 7, 2⟩, ⟨"&jcirc;", "ĵ", 7, 2⟩,
    ⟨"&Kcedil;", "Ķ", 8, 2⟩, ⟨"&kcedil;", "ķ", 8, 2⟩, ⟨"&kgreen;", "ĸ", 8, 2⟩, ⟨"&Lacute;", "Ĺ", 8, 2⟩,
    ⟨"&lacute;", "ĺ", 8, 2⟩, ⟨"&Lcedil;", "Ļ", 8, 2⟩, ⟨"&lcedil;", "ļ", 8, 2⟩, ⟨"&Lcaron;", "Ľ", 8, 2⟩,
    ⟨"&lcaron;", "ľ", 8, 2⟩, ⟨"&Lmidot;", "Ŀ", 8, 2⟩, ⟨"&lmidot;", "ŀ", 8, 2⟩, ⟨"&Lstrok;", "Ł", 8, 2⟩,
    ⟨"&lstrok;", "ł", 8, 2⟩, ⟨"&Nacute;", "Ń", 8, 2⟩, ⟨"&nacute;", "ń", 8, 2⟩, ⟨"&Ncedil;", "Ņ", 8, 2⟩,
    ⟨"&ncedil;", "ņ", 8, 2⟩, ⟨"&Ncaron;", "Ň", 8, 2⟩, ⟨"&ncaron;", "ň", 8, 2⟩, ⟨"&napos;", "ŉ", 7, 2⟩,
    ⟨"&ENG;", "Ŋ", 5, 2⟩, ⟨"&eng;", "ŋ", 5, 2⟩, ⟨"&Omacr;", "Ō", 7, 2⟩, ⟨"&omacr;", "ō", 7, 2⟩,
    ⟨"&Odblac;", "Ő", 8, 2⟩, ⟨"&odblac;", "ő", 8, 2⟩, ⟨"&OElig;", "Œ", 7, 2⟩, ⟨"&oelig;", "œ", 7, 2⟩,
    ⟨"&Racute;", "Ŕ", 8, 2⟩, ⟨"&racute;", "ŕ", 8, 2⟩, ⟨"&Rcedil;", "Ŗ", 8, 2⟩, ⟨"&rcedil;", "ŗ", 8, 2⟩,
    ⟨"&Rcaron;", "Ř", 8, 2⟩, ⟨"&rcaron;", "ř", 8, 2⟩, ⟨"&Sacute;", "Ś", 8, 2⟩, ⟨"&sacute;", "ś", 8, 2⟩,
    ⟨"&Scirc;", "Ŝ", 7, 2⟩, ⟨"&scirc;", "ŝ", 7, 2⟩, ⟨"&Scedil;", "Ş", 8, 2⟩, ⟨"&scedil;", "ş", 8, 2⟩,
    ⟨"&Scaron;", "Š", 8, 2⟩, ⟨"&scaron;", "š", 8, 2⟩, ⟨"&Tcedil;", "Ţ", 8, 2⟩, ⟨"&tcedil;", "ţ", 8, 2⟩,
    ⟨"&Tcaron;", "Ť", 8, 2⟩, ⟨"&tcaron;", "ť", 8, 2⟩, ⟨"&Tstrok;", "Ŧ", 8, 2⟩, ⟨"&tstrok;", "ŧ", 8, 2⟩,
    ⟨"&Utilde;", "Ũ", 8, 2⟩, ⟨"&utilde;", "ũ", 8, 2⟩, ⟨"&Umacr;", "Ū", 7, 2⟩, ⟨"&umacr;", "ū", 7, 2⟩,
    ⟨"&Ubreve;", "Ŭ", 8, 2⟩, ⟨"&ubreve;", "ŭ", 8, 2⟩, ⟨"&Uring;", "Ů", 7, 2⟩, ⟨"&uring;", "ů", 7, 2⟩,
    ⟨"&Udblac;", "Ű", 8, 2⟩, ⟨"&udblac;", "ű", 8, 2⟩, ⟨"&Uogon;", "Ų", 7, 2⟩, ⟨"&uogon;", "ų", 7, 2⟩,
    ⟨"&Wcirc;", "Ŵ", 7, 2⟩, ⟨"&wcirc;", "ŵ", 7, 2⟩, ⟨"&Ycirc;", "Ŷ", 7, 2⟩, ⟨"&ycirc;", "ŷ", 7, 2⟩,
    ⟨"&Yuml;", "Ÿ", 6, 2⟩, ⟨"&Zacute;", "Ź", 8, 2⟩, ⟨"&zacute;", "ź", 8, 2⟩, ⟨"&Zdot;", "Ż", 6, 2⟩,
    ⟨"&zdot;", "ż", 6, 2⟩, ⟨"&Zcaron;", "Ž", 8, 2⟩, ⟨"&zcaron;", "ž", 8, 2⟩, ⟨"&fnof;", "ƒ", 6, 2⟩,
    ⟨"&imped;", "Ƶ", 7, 2⟩, ⟨"&gacute;", "ǵ", 8, 2⟩, ⟨"&jmath;", "ȷ", 7, 2⟩, ⟨"&circ;", "ˆ", 6, 2⟩,
    ⟨"&Hacek;", "ˇ", 7, 2⟩, ⟨"&Breve;", "˘", 7, 2⟩, ⟨"&dot;", "˙", 5, 2⟩, ⟨"&ring;", "˚", 6, 2⟩,
    ⟨"&ogon;", "˛", 6, 2⟩, ⟨"&DiacriticalTilde;", "˜", 18, 2⟩, ⟨"&DiacriticalDoubleAcute;", "˝", 24, 2⟩,
    ⟨"&DownBreve;", "̑", 11, 2⟩, ⟨"&Alpha;", "Α", 7, 2⟩, ⟨"&Beta;", "Β", 6, 2⟩, ⟨"&Gamma;", "Γ", 7, 2⟩,
    ⟨"&Delta;", "Δ", 7, 2⟩, ⟨"&Epsilon;", "Ε", 9, 2⟩, ⟨"&Zeta;", "Ζ", 6, 2⟩, ⟨"&Eta;", "Η", 5, 2⟩,
    ⟨"&Theta;", "Θ", 7, 2⟩, ⟨"&Iota;", "Ι", 6, 2⟩, ⟨"&Kappa;", "Κ", 7, 2⟩, ⟨"&Lambda;", "Λ", 8, 2⟩,
    ⟨"&Mu;", "Μ", 4, 2⟩, ⟨"&Nu;", "Ν", 4, 2⟩, ⟨"&Xi;", "Ξ", 4, 2⟩, ⟨"&Omicron;", "Ο", 9, 2⟩, ⟨"&Pi;", "Π", 4, 2⟩,
    ⟨"&Rho;", "Ρ", 5, 2⟩, ⟨"&Sigma;", "Σ", 7, 2⟩, ⟨"&Tau;", "Τ", 5, 2⟩, ⟨"&Upsilon;", "Υ", 9, 2⟩,
    ⟨"&Phi;", "Φ", 5, 2⟩, ⟨"&Chi;", "Χ", 5, 2⟩, ⟨"&Psi;", "Ψ", 5, 2⟩, ⟨"&Omega;", "Ω", 7, 2⟩, ⟨"&alpha;", "α", 7, 2⟩,
    ⟨"&beta;", "β", 6, 2⟩, ⟨"&gamma;", "γ", 7, 2⟩, ⟨"&delta;", "δ", 7, 2⟩, ⟨"&epsi;", "ε", 6, 2⟩,
    ⟨"&zeta;", "ζ", 6, 2⟩, ⟨"&eta;", "η", 5, 2⟩, ⟨"&theta;", "θ", 7, 2⟩, ⟨"&iota;", "ι", 6, 2⟩,
    ⟨"&kappa;", "κ", 7, 2⟩, ⟨"&lambda;", "λ", 8, 2⟩, ⟨"&mu;", "μ", 4, 2⟩, ⟨"&nu;", "ν", 4, 2⟩, ⟨"&xi;", "ξ", 4, 2⟩,
    ⟨"&omicron;", "ο", 9, 2⟩, ⟨"&pi;", "π", 4, 2⟩, ⟨"&rho;", "ρ", 5, 2⟩, ⟨"&sigmav;", "ς", 8, 2⟩,
    ⟨"&sigma;", "σ", 7, 2⟩, ⟨"&tau;", "τ", 5, 2⟩, ⟨"&upsi;", "υ", 6, 2⟩, ⟨"&phi;", "φ", 5, 2⟩, ⟨"&chi;", "χ", 5, 2⟩,
    ⟨"&psi;", "ψ", 5, 2⟩, ⟨"&omega;", "ω", 7, 2⟩, ⟨"&thetasym;", "ϑ", 10, 2⟩, ⟨"&upsih;", "ϒ", 7, 2⟩,
    ⟨"&straightphi;", "ϕ", 13, 2⟩, ⟨"&piv;", "ϖ", 5, 2⟩, ⟨"&Gammad;", "Ϝ", 8, 2⟩, ⟨"&gammad;", "ϝ", 8, 2⟩,
    ⟨"&varkappa;", "ϰ", 10, 2⟩, ⟨"&rhov;", "ϱ", 6, 2⟩, ⟨"&straightepsilon;", "ϵ", 17, 2⟩,
    ⟨"&backepsilon;", "϶", 13, 2⟩, ⟨"&IOcy;", "Ё", 6, 2⟩, ⟨"&DJcy;", "Ђ", 6, 2⟩, ⟨"&GJcy;", "Ѓ", 6, 2⟩,
    ⟨"&Jukcy;", "Є", 7, 2⟩, ⟨"&DScy;", "Ѕ", 6, 2⟩, ⟨"&Iukcy;", "І", 7, 2⟩, ⟨"&YIcy;", "Ї", 6, 2⟩,
    ⟨"&Jsercy;", "Ј", 8, 2⟩, ⟨"&LJcy;", "Љ", 6, 2⟩, ⟨"&NJcy;", "Њ", 6, 2⟩, ⟨"&TSHcy;", "Ћ", 7, 2⟩,
    ⟨"&KJcy;", "Ќ", 6, 2⟩, ⟨"&Ubrcy;", "Ў", 7, 2⟩, ⟨"&DZcy;", "Џ", 6, 2⟩, ⟨"&Acy;", "А", 5, 2⟩, ⟨"&Bcy;", "Б", 5, 2⟩,
    ⟨"&Vcy;", "В", 5, 2⟩, ⟨"&Gcy;", "Г", 5, 2⟩, ⟨"&Dcy;", "Д", 5, 2⟩, ⟨"&IEcy;", "Е", 6, 2⟩, ⟨"&ZHcy;", "Ж", 6, 2⟩,
    ⟨"&Zcy;", "З", 5, 2⟩, ⟨"&Icy;", "И", 5, 2⟩, ⟨"&Jcy;", "Й", 5, 2⟩, ⟨"&Kcy;", "К", 5, 2⟩, ⟨"&Lcy;", "Л", 5, 2⟩,
    ⟨"&Mcy;", "М", 5, 2⟩, ⟨"&Ncy;", "Н", 5, 2⟩, ⟨"&Ocy;", "О", 5, 2⟩, ⟨"&Pcy;", "П", 5, 2⟩, ⟨"&Rcy;", "Р", 5, 2⟩,
    ⟨"&Scy;", "С", 5, 2⟩, ⟨"&Tcy;", "Т", 5, 2⟩, ⟨"&Ucy;", "У", 5, 2⟩, ⟨"&Fcy;", "Ф", 5, 2⟩, ⟨"&KHcy;", "Х", 6, 2⟩,
    ⟨"&TScy;", "Ц", 6, 2⟩, ⟨"&CHcy;", "Ч", 6, 2⟩, ⟨"&SHcy;", "Ш", 6, 2⟩, ⟨"&SHCHcy;", "Щ", 8, 2⟩,
    ⟨"&HARDcy;", "Ъ", 8, 2⟩, ⟨"&Ycy;", "Ы", 5, 2⟩, ⟨"&SOFTcy;", "Ь", 8, 2⟩, ⟨"&Ecy;", "Э", 5, 2⟩,
    ⟨"&YUcy;", "Ю", 6, 2⟩, ⟨"&YAcy;", "Я", 6, 2⟩, ⟨"&acy;", "а", 5, 2⟩, ⟨"&bcy;", "б", 5, 2⟩, ⟨"&vcy;", "в", 5, 2⟩,
    ⟨"&gcy;", "г", 5, 2⟩, ⟨"&dcy;", "д", 5, 2⟩, ⟨"&iecy;", "е", 6, 2⟩, ⟨"&zhcy;", "ж", 6, 2⟩, ⟨"&zcy;", "з", 5, 2⟩,
    ⟨"&icy;", "и", 5, 2⟩, ⟨"&jcy;", "й", 5, 2⟩, ⟨"&kcy;", "к", 5, 2⟩, ⟨"&lcy;", "л", 5, 2⟩, ⟨"&mcy;", "м", 5, 2⟩,
    ⟨"&ncy;", "н", 5, 2⟩, ⟨"&ocy;", "о", 5, 2⟩, ⟨"&pcy;", "п", 5, 2⟩, ⟨"&rcy;", "р", 5, 2⟩, ⟨"&scy;", "с", 5, 2⟩,
    ⟨"&tcy;", "т", 5, 2⟩, ⟨"&ucy;", "у", 5, 2⟩, ⟨"&fcy;", "ф", 5, 2⟩, ⟨"&khcy;", "х", 6, 2⟩, ⟨"&tscy;", "ц", 6, 2⟩,
    ⟨"&chcy;", "ч", 6, 2⟩, ⟨"&shcy;", "ш", 6, 2⟩, ⟨"&shchcy;", "щ", 8, 2⟩, ⟨"&hardcy;", "ъ", 8, 2⟩,
    ⟨"&ycy;", "ы", 5, 2⟩, ⟨"&softcy;", "ь", 8, 2⟩, ⟨"&ecy;", "э", 5, 2⟩, ⟨"&yucy;", "ю", 6, 2⟩, ⟨"&yacy;", "я", 6, 2⟩,
    ⟨"&iocy;", "ё", 6, 2⟩, ⟨"&djcy;", "ђ", 6, 2⟩, ⟨"&gjcy;", "ѓ", 6, 2⟩, ⟨"&jukcy;", "є", 7, 2⟩,
    ⟨"&dscy;", "ѕ", 6, 2⟩, ⟨"&iukcy;", "і", 7, 2⟩, ⟨"&yicy;", "ї", 6, 2⟩, ⟨"&jsercy;", "ј", 8, 2⟩,
    ⟨"&ljcy;", "љ", 6, 2⟩, ⟨"&njcy;", "њ", 6, 2⟩, ⟨"&tshcy;", "ћ", 7, 2⟩, ⟨"&kjcy;", "ќ", 6, 2⟩,
    ⟨"&ubrcy;", "ў", 7, 2⟩, ⟨"&dzcy;", "џ", 6, 2⟩, ⟨"&ensp;", "\u2002", 6, 3⟩, ⟨"&emsp;", "\u2003", 6, 3⟩,
    ⟨"&emsp13;", "\u2004", 8, 3⟩, ⟨"&emsp14;", "\u2005", 8, 3⟩, ⟨"&numsp;", "\u2007", 7, 3⟩,
    ⟨"&puncsp;", "\u2008", 8, 3⟩, ⟨"&ThinSpace;", "\u2009", 11, 3⟩, ⟨"&hairsp;", "\u200a", 8, 3⟩,
    ⟨"&ZeroWidthSpace;", "\u200b", 16, 3⟩, ⟨"&zwnj;", "\u200c", 6, 3⟩, ⟨"&zwj;", "\u200d", 5, 3⟩,
    ⟨"&lrm;", "\u200e", 5, 3⟩, ⟨"&rlm;", "\u200f", 5, 3⟩, ⟨"&hyphen;", "‐", 8, 3⟩, ⟨"&ndash;", "–", 7, 3⟩,
    ⟨"&mdash;", "—", 7, 3⟩, ⟨"&horbar;", "―", 8, 3⟩, ⟨"&Verbar;", "‖", 8, 3⟩, ⟨"&OpenCurlyQuote;", "‘", 16, 3⟩,
    ⟨"&rsquo;", "’", 7, 3⟩, ⟨"&sbquo;", "‚", 7, 3⟩, ⟨"&OpenCurlyDoubleQuote;", "“", 22, 3⟩, ⟨"&rdquo;", "”", 7, 3⟩,
    ⟨"&bdquo;", "„", 7, 3⟩, ⟨"&dagger;", "†", 8, 3⟩, ⟨"&Dagger;", "‡", 8, 3⟩, ⟨"&bull;", "•", 6, 3⟩,
    ⟨"&nldr;", "‥", 6, 3⟩, ⟨"&hellip;", "…", 8, 3⟩, ⟨"&permil;", "‰", 8, 3⟩, ⟨"&pertenk;", "‱", 9, 3⟩,
    ⟨"&prime;", "′", 7, 3⟩, ⟨"&Prime;", "″", 7, 3⟩, ⟨"&tprime;", "‴", 8, 3⟩, ⟨"&backprime;", "‵", 11, 3⟩,
    ⟨"&lsaquo;", "‹", 8, 3⟩, ⟨"&rsaquo;", "›", 8, 3⟩, ⟨"&oline;", "‾", 7, 3⟩, ⟨"&caret;", "⁁", 7, 3⟩,
    ⟨"&hybull;", "⁃", 8, 3⟩, ⟨"&frasl;", "⁄", 7, 3⟩, ⟨"&bsemi;", "⁏", 7, 3⟩, ⟨"&qprime;", "⁗", 8, 3⟩,
    ⟨"&MediumSpace;", "\u205f", 13, 3⟩, ⟨"&ThickSpace;", "\u205f\u200a", 12, 6⟩, ⟨"&NoBreak;", "\u2060", 9, 3⟩,
    ⟨"&af;", "\u2061", 4, 3⟩, ⟨"&InvisibleTimes;", "\u2062", 16, 3⟩, ⟨"&ic;", "\u2063", 4, 3⟩, ⟨"&euro;", "€", 6, 3⟩,
    ⟨"&TripleDot;", "⃛", 11, 3⟩, ⟨"&DotDot;", "⃜", 8, 3⟩, ⟨"&complexes;", "ℂ", 11, 3⟩, ⟨"&incare;", "℅", 8, 3⟩,
    ⟨"&gscr;", "ℊ", 6, 3⟩, ⟨"&HilbertSpace;", "ℋ", 14, 3⟩, ⟨"&Hfr;", "ℌ", 5, 3⟩, ⟨"&Hopf;", "ℍ", 6, 3⟩,
    ⟨"&planckh;", "ℎ", 9, 3⟩, ⟨"&planck;", "ℏ", 8, 3⟩, ⟨"&imagline;", "ℐ", 10, 3⟩, ⟨"&Ifr;", "ℑ", 5, 3⟩,
    ⟨"&lagran;", "ℒ", 8, 3⟩, ⟨"&ell;", "ℓ", 5, 3⟩, ⟨"&naturals;", "ℕ", 10, 3⟩, ⟨"&numero;", "№", 8, 3⟩,
    ⟨"&copysr;", "℗", 8, 3⟩, ⟨"&wp;", "℘", 4, 3⟩, ⟨"&primes;", "ℙ", 8, 3⟩, ⟨"&rationals;", "ℚ", 11, 3⟩,
    ⟨"&realine;", "ℛ", 9, 3⟩, ⟨"&Rfr;", "ℜ", 5, 3⟩, ⟨"&Ropf;", "ℝ", 6, 3⟩, ⟨"&rx;", "℞", 4, 3⟩,
    ⟨"&trade;", "™", 7, 3⟩, ⟨"&Zopf;", "ℤ", 6, 3⟩, ⟨"&mho;", "℧", 5, 3⟩, ⟨"&Zfr;", "ℨ", 5, 3⟩, ⟨"&iiota;", "℩", 7, 3⟩,
    ⟨"&Bscr;", "ℬ", 6, 3⟩, ⟨"&Cfr;", "ℭ", 5, 3⟩, ⟨"&escr;", "ℯ", 6, 3⟩, ⟨"&expectation;", "ℰ", 13, 3⟩,
    ⟨"&Fouriertrf;", "ℱ", 12, 3⟩, ⟨"&Mellintrf;", "ℳ", 11, 3⟩, ⟨"&orderof;", "ℴ", 9, 3⟩, ⟨"&aleph;", "ℵ", 7, 3⟩,
    ⟨"&beth;", "ℶ", 6, 3⟩, ⟨"&gimel;", "ℷ", 7, 3⟩, ⟨"&daleth;", "ℸ", 8, 3⟩, ⟨"&CapitalDifferentialD;", "ⅅ", 22, 3⟩,
    ⟨"&DifferentialD;", "ⅆ", 15, 3⟩, ⟨"&exponentiale;", "ⅇ", 14, 3⟩, ⟨"&ImaginaryI;", "ⅈ", 12, 3⟩,
    ⟨"&frac13;", "⅓", 8, 3⟩, ⟨"&frac23;", "⅔", 8, 3⟩, ⟨"&frac15;", "⅕", 8, 3⟩, ⟨"&frac25;", "⅖", 8, 3⟩,
    ⟨"&frac35;", "⅗", 8, 3⟩, ⟨"&frac45;", "⅘", 8, 3⟩, ⟨"&frac16;", "⅙", 8, 3⟩, ⟨"&frac56;", "⅚", 8, 3⟩,
    ⟨"&frac18;", "⅛", 8, 3⟩, ⟨"&frac38;", "⅜", 8, 3⟩, ⟨"&frac58;", "⅝", 8, 3⟩, ⟨"&frac78;", "⅞", 8, 3⟩,
    ⟨"&larr;", "←", 6, 3⟩, ⟨"&uarr;", "↑", 6, 3⟩, ⟨"&srarr;", "→", 7, 3⟩, ⟨"&darr;", "↓", 6, 3⟩,
    ⟨"&harr;", "↔", 6, 3⟩, ⟨"&UpDownArrow;", "↕", 13, 3⟩, ⟨"&nwarrow;", "↖", 9, 3⟩, ⟨"&UpperRightArrow;", "↗", 17, 3⟩,
    ⟨"&LowerRightArrow;", "↘", 17, 3⟩, ⟨"&swarr;", "↙", 7, 3⟩, ⟨"&nleftarrow;", "↚", 12, 3⟩, ⟨"&nrarr;", "↛", 7, 3⟩,
    ⟨"&rarrw;", "↝", 7, 3⟩, ⟨"&nrarrw;", "↝̸", 8, 5⟩, ⟨"&Larr;", "↞", 6, 3⟩, ⟨"&Uarr;", "↟", 6, 3⟩,
    ⟨"&twoheadrightarrow;", "↠", 19, 3⟩, ⟨"&Darr;", "↡", 6, 3⟩, ⟨"&larrtl;", "↢", 8, 3⟩, ⟨"&rarrtl;", "↣", 8, 3⟩,
    ⟨"&LeftTeeArrow;", "↤", 14, 3⟩, ⟨"&UpTeeArrow;", "↥", 12, 3⟩, ⟨"&map;", "↦", 5, 3⟩,
    ⟨"&DownTeeArrow;", "↧", 14, 3⟩, ⟨"&larrhk;", "↩", 8, 3⟩, ⟨"&rarrhk;", "↪", 8, 3⟩, ⟨"&larrlp;", "↫", 8, 3⟩,
    ⟨"&looparrowright;", "↬", 16, 3⟩, ⟨"&harrw;", "↭", 7, 3⟩, ⟨"&nleftrightarrow;", "↮", 17, 3⟩, ⟨"&Lsh;", "↰", 5, 3⟩,
    ⟨"&rsh;", "↱", 5, 3⟩, ⟨"&ldsh;", "↲", 6, 3⟩, ⟨"&rdsh;", "↳", 6, 3⟩, ⟨"&crarr;", "↵", 7, 3⟩,
    ⟨"&curvearrowleft;", "↶", 16, 3⟩, ⟨"&curarr;", "↷", 8, 3⟩, ⟨"&olarr;", "↺", 7, 3⟩, ⟨"&orarr;", "↻", 7, 3⟩,
    ⟨"&leftharpoonup;", "↼", 15, 3⟩, ⟨"&leftharpoondown;", "↽", 17, 3⟩, ⟨"&RightUpVector;", "↾", 15, 3⟩,
    ⟨"&uharl;", "↿", 7, 3⟩, ⟨"&rharu;", "⇀", 7, 3⟩, ⟨"&rhard;", "⇁", 7, 3⟩, ⟨"&RightDownVector;", "⇂", 17, 3⟩,
    ⟨"&dharl;", "⇃", 7, 3⟩, ⟨"&rightleftarrows;", "⇄", 17, 3⟩, ⟨"&udarr;", "⇅", 7, 3⟩, ⟨"&lrarr;", "⇆", 7, 3⟩,
    ⟨"&llarr;", "⇇", 7, 3⟩, ⟨"&upuparrows;", "⇈", 12, 3⟩, ⟨"&rrarr;", "⇉", 7, 3⟩, ⟨"&downdownarrows;", "⇊", 16, 3⟩,
    ⟨"&leftrightharpoons;", "⇋", 19, 3⟩, ⟨"&rightleftharpoons;", "⇌", 19, 3⟩, ⟨"&nLeftarrow;", "⇍", 12, 3⟩,
    ⟨"&nhArr;", "⇎", 7, 3⟩, ⟨"&nrArr;", "⇏", 7, 3⟩, ⟨"&DoubleLeftArrow;", "⇐", 17, 3⟩,
    ⟨"&DoubleUpArrow;", "⇑", 15, 3⟩, ⟨"&Implies;", "⇒", 9, 3⟩, ⟨"&Downarrow;", "⇓", 11, 3⟩, ⟨"&hArr;", "⇔", 6, 3⟩,
    ⟨"&Updownarrow;", "⇕", 13, 3⟩, ⟨"&nwArr;", "⇖", 7, 3⟩, ⟨"&neArr;", "⇗", 7, 3⟩, ⟨"&seArr;", "⇘", 7, 3⟩,
    ⟨"&swArr;", "⇙", 7, 3⟩, ⟨"&lAarr;", "⇚", 7, 3⟩, ⟨"&rAarr;", "⇛", 7, 3⟩, ⟨"&zigrarr;", "⇝", 9, 3⟩,
    ⟨"&LeftArrowBar;", "⇤", 14, 3⟩, ⟨"&RightArrowBar;", "⇥", 15, 3⟩, ⟨"&DownArrowUpArrow;", "⇵", 18, 3⟩,
    ⟨"&loarr;", "⇽", 7, 3⟩, ⟨"&roarr;", "⇾", 7, 3⟩, ⟨"&hoarr;", "⇿", 7, 3⟩, ⟨"&forall;", "∀", 8, 3⟩,
    ⟨"&comp;", "∁", 6, 3⟩, ⟨"&part;", "∂", 6, 3⟩, ⟨"&npart;", "∂̸", 7, 5⟩, ⟨"&Exists;", "∃", 8, 3⟩,
    ⟨"&nexist;", "∄", 8, 3⟩, ⟨"&empty;", "∅", 7, 3⟩, ⟨"&nabla;", "∇", 7, 3⟩, ⟨"&isinv;", "∈", 7, 3⟩,
    ⟨"&notin;", "∉", 7, 3⟩, ⟨"&ReverseElement;", "∋", 16, 3⟩, ⟨"&notniva;", "∌", 9, 3⟩, ⟨"&prod;", "∏", 6, 3⟩,
    ⟨"&Coproduct;", "∐", 11, 3⟩, ⟨"&sum;", "∑", 5, 3⟩, ⟨"&minus;", "−", 7, 3⟩, ⟨"&MinusPlus;", "∓", 11, 3⟩,
    ⟨"&plusdo;", "∔", 8, 3⟩, ⟨"&ssetmn;", "∖", 8, 3⟩, ⟨"&lowast;", "∗", 8, 3⟩, ⟨"&compfn;", "∘", 8, 3⟩,
    ⟨"&Sqrt;", "√", 6, 3⟩, ⟨"&prop;", "∝", 6, 3⟩, ⟨"&infin;", "∞", 7, 3⟩, ⟨"&angrt;", "∟", 7, 3⟩,
    ⟨"&angle;", "∠", 7, 3⟩, ⟨"&nang;", "∠⃒", 6, 6⟩, ⟨"&angmsd;", "∡", 8, 3⟩, ⟨"&angsph;", "∢", 8, 3⟩,
    ⟨"&mid;", "∣", 5, 3⟩, ⟨"&nshortmid;", "∤", 11, 3⟩, ⟨"&shortparallel;", "∥", 15, 3⟩, ⟨"&nparallel;", "∦", 11, 3⟩,
    ⟨"&and;", "∧", 5, 3⟩, ⟨"&or;", "∨", 4, 3⟩, ⟨"&cap;", "∩", 5, 3⟩, ⟨"&caps;", "∩︀", 6, 6⟩, ⟨"&cup;", "∪", 5, 3⟩,
    ⟨"&cups;", "∪︀", 6, 6⟩, ⟨"&Integral;", "∫", 10, 3⟩, ⟨"&Int;", "∬", 5, 3⟩, ⟨"&tint;", "∭", 6, 3⟩,
    ⟨"&ContourIntegral;", "∮", 17, 3⟩, ⟨"&DoubleContourIntegral;", "∯", 23, 3⟩, ⟨"&Cconint;", "∰", 9, 3⟩,
    ⟨"&cwint;", "∱", 7, 3⟩, ⟨"&cwconint;", "∲", 10, 3⟩, ⟨"&awconint;", "∳", 10, 3⟩, ⟨"&there4;", "∴", 8, 3⟩,
    ⟨"&Because;", "∵", 9, 3⟩, ⟨"&ratio;", "∶", 7, 3⟩, ⟨"&Colon;", "∷", 7, 3⟩, ⟨"&minusd;", "∸", 8, 3⟩,
    ⟨"&mDDot;", "∺", 7, 3⟩, ⟨"&homtht;", "∻", 8, 3⟩, ⟨"&sim;", "∼", 5, 3⟩, ⟨"&nvsim;", "∼⃒", 7, 6⟩,
    ⟨"&bsim;", "∽", 6, 3⟩, ⟨"&race;", "∽̱", 6, 5⟩, ⟨"&ac;", "∾", 4, 3⟩, ⟨"&acE;", "∾̳", 5, 5⟩, ⟨"&acd;", "∿", 5, 3⟩,
    ⟨"&wr;", "≀", 4, 3⟩, ⟨"&NotTilde;", "≁", 10, 3⟩, ⟨"&esim;", "≂", 6, 3⟩, ⟨"&nesim;", "≂̸", 7, 5⟩,
    ⟨"&simeq;", "≃", 7, 3⟩, ⟨"&nsime;", "≄", 7, 3⟩, ⟨"&TildeFullEqual;", "≅", 16, 3⟩, ⟨"&simne;", "≆", 7, 3⟩,
    ⟨"&ncong;", "≇", 7, 3⟩, ⟨"&approx;", "≈", 8, 3⟩, ⟨"&napprox;", "≉", 9, 3⟩, ⟨"&ape;", "≊", 5, 3⟩,
    ⟨"&apid;", "≋", 6, 3⟩, ⟨"&napid;", "≋̸", 7, 5⟩, ⟨"&bcong;", "≌", 7, 3⟩, ⟨"&CupCap;", "≍", 8, 3⟩,
    ⟨"&nvap;", "≍⃒", 6, 6⟩, ⟨"&bump;", "≎", 6, 3⟩, ⟨"&nbump;", "≎̸", 7, 5⟩, ⟨"&HumpEqual;", "≏", 11, 3⟩,
    ⟨"&nbumpe;", "≏̸", 8, 5⟩, ⟨"&esdot;", "≐", 7, 3⟩, ⟨"&nedot;", "≐̸", 7, 5⟩, ⟨"&doteqdot;", "≑", 10, 3⟩,
    ⟨"&fallingdotseq;", "≒", 15, 3⟩, ⟨"&risingdotseq;", "≓", 14, 3⟩, ⟨"&coloneq;", "≔", 9, 3⟩,
    ⟨"&eqcolon;", "≕", 9, 3⟩, ⟨"&ecir;", "≖", 6, 3⟩, ⟨"&circeq;", "≗", 8, 3⟩, ⟨"&wedgeq;", "≙", 8, 3⟩,
    ⟨"&veeeq;", "≚", 7, 3⟩, ⟨"&triangleq;", "≜", 11, 3⟩, ⟨"&equest;", "≟", 8, 3⟩, ⟨"&NotEqual;", "≠", 10, 3⟩,
    ⟨"&Congruent;", "≡", 11, 3⟩, ⟨"&bnequiv;", "≡⃥", 9, 6⟩, ⟨"&NotCongruent;", "≢", 14, 3⟩, ⟨"&leq;", "≤", 5, 3⟩,
    ⟨"&nvle;", "≤⃒", 6, 6⟩, ⟨"&ge;", "≥", 4, 3⟩, ⟨"&nvge;", "≥⃒", 6, 6⟩, ⟨"&lE;", "≦", 4, 3⟩, ⟨"&nlE;", "≦̸", 5, 5⟩,
    ⟨"&geqq;", "≧", 6, 3⟩, ⟨"&NotGreaterFullEqual;", "≧̸", 21, 5⟩, ⟨"&lneqq;", "≨", 7, 3⟩,
    ⟨"&lvertneqq;", "≨︀", 11, 6⟩, ⟨"&gneqq;", "≩", 7, 3⟩, ⟨"&gvertneqq;", "≩︀", 11, 6⟩, ⟨"&ll;", "≪", 4, 3⟩,
    ⟨"&nLtv;", "≪̸", 6, 5⟩, ⟨"&nLt;", "≪⃒", 5, 6⟩, ⟨"&gg;", "≫", 4, 3⟩, ⟨"&NotGreaterGreater;", "≫̸", 19, 5⟩,
    ⟨"&nGt;", "≫⃒", 5, 6⟩, ⟨"&between;", "≬", 9, 3⟩, ⟨"&NotCupCap;", "≭", 11, 3⟩, ⟨"&NotLess;", "≮", 9, 3⟩,
    ⟨"&ngtr;", "≯", 6, 3⟩, ⟨"&NotLessEqual;", "≰", 14, 3⟩, ⟨"&ngeq;", "≱", 6, 3⟩, ⟨"&LessTilde;", "≲", 11, 3⟩,
    ⟨"&GreaterTilde;", "≳", 14, 3⟩, ⟨"&nlsim;", "≴", 7, 3⟩, ⟨"&ngsim;", "≵", 7, 3⟩, ⟨"&lessgtr;", "≶", 9, 3⟩,
    ⟨"&gl;", "≷", 4, 3⟩, ⟨"&ntlg;", "≸", 6, 3⟩, ⟨"&NotGreaterLess;", "≹", 16, 3⟩, ⟨"&prec;", "≺", 6, 3⟩,
    ⟨"&succ;", "≻", 6, 3⟩, ⟨"&PrecedesSlantEqual;", "≼", 20, 3⟩, ⟨"&succcurlyeq;", "≽", 13, 3⟩,
    ⟨"&precsim;", "≾", 9, 3⟩, ⟨"&SucceedsTilde;", "≿", 15, 3⟩, ⟨"&NotSucceedsTilde;", "≿̸", 18, 5⟩,
    ⟨"&npr;", "⊀", 5, 3⟩, ⟨"&NotSucceeds;", "⊁", 13, 3⟩, ⟨"&sub;", "⊂", 5, 3⟩, ⟨"&vnsub;", "⊂⃒", 7, 6⟩,
    ⟨"&sup;", "⊃", 5, 3⟩, ⟨"&nsupset;", "⊃⃒", 9, 6⟩, ⟨"&nsub;", "⊄", 6, 3⟩, ⟨"&nsup;", "⊅", 6, 3⟩,
    ⟨"&SubsetEqual;", "⊆", 13, 3⟩, ⟨"&supe;", "⊇", 6, 3⟩, ⟨"&NotSubsetEqual;", "⊈", 16, 3⟩,
    ⟨"&NotSupersetEqual;", "⊉", 18, 3⟩, ⟨"&subsetneq;", "⊊", 11, 3⟩, ⟨"&vsubne;", "⊊︀", 8, 6⟩,
    ⟨"&supsetneq;", "⊋", 11, 3⟩, ⟨"&vsupne;", "⊋︀", 8, 6⟩, ⟨"&cupdot;", "⊍", 8, 3⟩, ⟨"&UnionPlus;", "⊎", 11, 3⟩,
    ⟨"&sqsub;", "⊏", 7, 3⟩, ⟨"&NotSquareSubset;", "⊏̸", 17, 5⟩, ⟨"&sqsupset;", "⊐", 10, 3⟩,
    ⟨"&NotSquareSuperset;", "⊐̸", 19, 5⟩, ⟨"&SquareSubsetEqual;", "⊑", 19, 3⟩, ⟨"&SquareSupersetEqual;", "⊒", 21, 3⟩,
    ⟨"&sqcap;", "⊓", 7, 3⟩, ⟨"&sqcaps;", "⊓︀", 8, 6⟩, ⟨"&sqcup;", "⊔", 7, 3⟩, ⟨"&sqcups;", "⊔︀", 8, 6⟩,
    ⟨"&CirclePlus;", "⊕", 12, 3⟩, ⟨"&ominus;", "⊖", 8, 3⟩, ⟨"&CircleTimes;", "⊗", 13, 3⟩, ⟨"&osol;", "⊘", 6, 3⟩,
    ⟨"&CircleDot;", "⊙", 11, 3⟩, ⟨"&ocir;", "⊚", 6, 3⟩, ⟨"&oast;", "⊛", 6, 3⟩, ⟨"&odash;", "⊝", 7, 3⟩,
    ⟨"&boxplus;", "⊞", 9, 3⟩, ⟨"&boxminus;", "⊟", 10, 3⟩, ⟨"&timesb;", "⊠", 8, 3⟩, ⟨"&sdotb;", "⊡", 7, 3⟩,
    ⟨"&vdash;", "⊢", 7, 3⟩, ⟨"&dashv;", "⊣", 7, 3⟩, ⟨"&DownTee;", "⊤", 9, 3⟩, ⟨"&perp;", "⊥", 6, 3⟩,
    ⟨"&models;", "⊧", 8, 3⟩, ⟨"&DoubleRightTee;", "⊨", 16, 3⟩, ⟨"&Vdash;", "⊩", 7, 3⟩, ⟨"&Vvdash;", "⊪", 8, 3⟩,
    ⟨"&VDash;", "⊫", 7, 3⟩, ⟨"&nvdash;", "⊬", 8, 3⟩, ⟨"&nvDash;", "⊭", 8, 3⟩, ⟨"&nVdash;", "⊮", 8, 3⟩,
    ⟨"&nVDash;", "⊯", 8, 3⟩, ⟨"&prurel;", "⊰", 8, 3⟩, ⟨"&vartriangleleft;", "⊲", 17, 3⟩, ⟨"&vrtri;", "⊳", 7, 3⟩,
    ⟨"&LeftTriangleEqual;", "⊴", 19, 3⟩, ⟨"&nvltrie;", "⊴⃒", 9, 6⟩, ⟨"&RightTriangleEqual;", "⊵", 20, 3⟩,
    ⟨"&nvrtrie;", "⊵⃒", 9, 6⟩, ⟨"&origof;", "⊶", 8, 3⟩, ⟨"&imof;", "⊷", 6, 3⟩, ⟨"&mumap;", "⊸", 7, 3⟩,
    ⟨"&hercon;", "⊹", 8, 3⟩, ⟨"&intcal;", "⊺", 8, 3⟩, ⟨"&veebar;", "⊻", 8, 3⟩, ⟨"&barvee;", "⊽", 8, 3⟩,
    ⟨"&angrtvb;", "⊾", 9, 3⟩, ⟨"&lrtri;", "⊿", 7, 3⟩, ⟨"&xwedge;", "⋀", 8, 3⟩, ⟨"&xvee;", "⋁", 6, 3⟩,
    ⟨"&bigcap;", "⋂", 8, 3⟩, ⟨"&bigcup;", "⋃", 8, 3⟩, ⟨"&diamond;", "⋄", 9, 3⟩, ⟨"&sdot;", "⋅", 6, 3⟩,
    ⟨"&Star;", "⋆", 6, 3⟩, ⟨"&divonx;", "⋇", 8, 3⟩, ⟨"&bowtie;", "⋈", 8, 3⟩, ⟨"&ltimes;", "⋉", 8, 3⟩,
    ⟨"&rtimes;", "⋊", 8, 3⟩, ⟨"&lthree;", "⋋", 8, 3⟩, ⟨"&rthree;", "⋌", 8, 3⟩, ⟨"&backsimeq;", "⋍", 11, 3⟩,
    ⟨"&curlyvee;", "⋎", 10, 3⟩, ⟨"&curlywedge;", "⋏", 12, 3⟩, ⟨"&Sub;", "⋐", 5, 3⟩, ⟨"&Supset;", "⋑", 8, 3⟩,
    ⟨"&Cap;", "⋒", 5, 3⟩, ⟨"&Cup;", "⋓", 5, 3⟩, ⟨"&pitchfork;", "⋔", 11, 3⟩, ⟨"&epar;", "⋕", 6, 3⟩,
    ⟨"&lessdot;", "⋖", 9, 3⟩, ⟨"&gtrdot;", "⋗", 8, 3⟩, ⟨"&Ll;", "⋘", 4, 3⟩, ⟨"&nLl;", "⋘̸", 5, 5⟩,
    ⟨"&Gg;", "⋙", 4, 3⟩, ⟨"&nGg;", "⋙̸", 5, 5⟩, ⟨"&lesseqgtr;", "⋚", 11, 3⟩, ⟨"&lesg;", "⋚︀", 6, 6⟩,
    ⟨"&gtreqless;", "⋛", 11, 3⟩, ⟨"&gesl;", "⋛︀", 6, 6⟩, ⟨"&curlyeqprec;", "⋞", 13, 3⟩, ⟨"&cuesc;", "⋟", 7, 3⟩,
    ⟨"&NotPrecedesSlantEqual;", "⋠", 23, 3⟩, ⟨"&NotSucceedsSlantEqual;", "⋡", 23, 3⟩,
    ⟨"&NotSquareSubsetEqual;", "⋢", 22, 3⟩, ⟨"&NotSquareSupersetEqual;", "⋣", 24, 3⟩, ⟨"&lnsim;", "⋦", 7, 3⟩,
    ⟨"&gnsim;", "⋧", 7, 3⟩, ⟨"&precnsim;", "⋨", 10, 3⟩, ⟨"&scnsim;", "⋩", 8, 3⟩, ⟨"&nltri;", "⋪", 7, 3⟩,
    ⟨"&ntriangleright;", "⋫", 16, 3⟩, ⟨"&nltrie;", "⋬", 8, 3⟩, ⟨"&NotRightTriangleEqual;", "⋭", 23, 3⟩,
    ⟨"&vellip;", "⋮", 8, 3⟩, ⟨"&ctdot;", "⋯", 7, 3⟩, ⟨"&utdot;", "⋰", 7, 3⟩, ⟨"&dtdot;", "⋱", 7, 3⟩,
    ⟨"&disin;", "⋲", 7, 3⟩, ⟨"&isinsv;", "⋳", 8, 3⟩, ⟨"&isins;", "⋴", 7, 3⟩, ⟨"&isindot;", "⋵", 9, 3⟩,
    ⟨"&notindot;", "⋵̸", 10, 5⟩, ⟨"&notinvc;", "⋶", 9, 3⟩, ⟨"&notinvb;", "⋷", 9, 3⟩, ⟨"&isinE;", "⋹", 7, 3⟩,
    ⟨"&notinE;", "⋹̸", 8, 5⟩, ⟨"&nisd;", "⋺", 6, 3⟩, ⟨"&xnis;", "⋻", 6, 3⟩, ⟨"&nis;", "⋼", 5, 3⟩,
    ⟨"&notnivc;", "⋽", 9, 3⟩, ⟨"&notnivb;", "⋾", 9, 3⟩, ⟨"&barwed;", "⌅", 8, 3⟩, ⟨"&doublebarwedge;", "⌆", 16, 3⟩,
    ⟨"&lceil;", "⌈", 7, 3⟩, ⟨"&RightCeiling;", "⌉", 14, 3⟩, ⟨"&LeftFloor;", "⌊", 11, 3⟩, ⟨"&RightFloor;", "⌋", 12, 3⟩,
    ⟨"&drcrop;", "⌌", 8, 3⟩, ⟨"&dlcrop;", "⌍", 8, 3⟩, ⟨"&urcrop;", "⌎", 8, 3⟩, ⟨"&ulcrop;", "⌏", 8, 3⟩,
    ⟨"&bnot;", "⌐", 6, 3⟩, ⟨"&profline;", "⌒", 10, 3⟩, ⟨"&profsurf;", "⌓", 10, 3⟩, ⟨"&telrec;", "⌕", 8, 3⟩,
    ⟨"&target;", "⌖", 8, 3⟩, ⟨"&ulcorner;", "⌜", 10, 3⟩, ⟨"&urcorner;", "⌝", 10, 3⟩, ⟨"&llcorner;", "⌞", 10, 3⟩,
    ⟨"&drcorn;", "⌟", 8, 3⟩, ⟨"&frown;", "⌢", 7, 3⟩, ⟨"&smile;", "⌣", 7, 3⟩, ⟨"&cylcty;", "⌭", 8, 3⟩,
    ⟨"&profalar;", "⌮", 10, 3⟩, ⟨"&topbot;", "⌶", 8, 3⟩, ⟨"&ovbar;", "⌽", 7, 3⟩, ⟨"&solbar;", "⌿", 8, 3⟩,
    ⟨"&angzarr;", "⍼", 9, 3⟩, ⟨"&lmoust;", "⎰", 8, 3⟩, ⟨"&rmoust;", "⎱", 8, 3⟩, ⟨"&OverBracket;", "⎴", 13, 3⟩,
    ⟨"&bbrk;", "⎵", 6, 3⟩, ⟨"&bbrktbrk;", "⎶", 10, 3⟩, ⟨"&OverParenthesis;", "⏜", 17, 3⟩,
    ⟨"&UnderParenthesis;", "⏝", 18, 3⟩, ⟨"&OverBrace;", "⏞", 11, 3⟩, ⟨"&UnderBrace;", "⏟", 12, 3⟩,
    ⟨"&trpezium;", "⏢", 10, 3⟩, ⟨"&elinters;", "⏧", 10, 3⟩, ⟨"&blank;", "␣", 7, 3⟩, ⟨"&oS;", "Ⓢ", 4, 3⟩,
    ⟨"&HorizontalLine;", "─", 16, 3⟩, ⟨"&boxv;", "│", 6, 3⟩, ⟨"&boxdr;", "┌", 7, 3⟩, ⟨"&boxdl;", "┐", 7, 3⟩,
    ⟨"&boxur;", "└", 7, 3⟩, ⟨"&boxul;", "┘", 7, 3⟩, ⟨"&boxvr;", "├", 7, 3⟩, ⟨"&boxvl;", "┤", 7, 3⟩,
    ⟨"&boxhd;", "┬", 7, 3⟩, ⟨"&boxhu;", "┴", 7, 3⟩, ⟨"&boxvh;", "┼", 7, 3⟩, ⟨"&boxH;", "═", 6, 3⟩,
    ⟨"&boxV;", "║", 6, 3⟩, ⟨"&boxdR;", "╒", 7, 3⟩, ⟨"&boxDr;", "╓", 7, 3⟩, ⟨"&boxDR;", "╔", 7, 3⟩,
    ⟨"&boxdL;", "╕", 7, 3⟩, ⟨"&boxDl;", "╖", 7, 3⟩, ⟨"&boxDL;", "╗", 7, 3⟩, ⟨"&boxuR;", "╘", 7, 3⟩,
    ⟨"&boxUr;", "╙", 7, 3⟩, ⟨"&boxUR;", "╚", 7, 3⟩, ⟨"&boxuL;", "╛", 7, 3⟩, ⟨"&boxUl;", "╜", 7, 3⟩,
    ⟨"&boxUL;", "╝", 7, 3⟩, ⟨"&boxvR;", "╞", 7, 3⟩, ⟨"&boxVr;", "╟", 7, 3⟩, ⟨"&boxVR;", "╠", 7, 3⟩,
    ⟨"&boxvL;", "╡", 7, 3⟩, ⟨"&boxVl;", "╢", 7, 3⟩, ⟨"&boxVL;", "╣", 7, 3⟩, ⟨"&boxHd;", "╤", 7, 3⟩,
    ⟨"&boxhD;", "╥", 7, 3⟩, ⟨"&boxHD;", "╦", 7, 3⟩, ⟨"&boxHu;", "╧", 7, 3⟩, ⟨"&boxhU;", "╨", 7, 3⟩,
    ⟨"&boxHU;", "╩", 7, 3⟩, ⟨"&boxvH;", "╪", 7, 3⟩, ⟨"&boxVh;", "╫", 7, 3⟩, ⟨"&boxVH;", "╬", 7, 3⟩,
    ⟨"&uhblk;", "▀", 7, 3⟩, ⟨"&lhblk;", "▄", 7, 3⟩, ⟨"&block;", "█", 7, 3⟩, ⟨"&blk14;", "░", 7, 3⟩,
    ⟨"&blk12;", "▒", 7, 3⟩, ⟨"&blk34;", "▓", 7, 3⟩, ⟨"&Square;", "□", 8, 3⟩, ⟨"&squarf;", "▪", 8, 3⟩,
    ⟨"&EmptyVerySmallSquare;", "▫", 22, 3⟩, ⟨"&rect;", "▭", 6, 3⟩, ⟨"&marker;", "▮", 8, 3⟩, ⟨"&fltns;", "▱", 7, 3⟩,
    ⟨"&bigtriangleup;", "△", 15, 3⟩, ⟨"&blacktriangle;", "▴", 15, 3⟩, ⟨"&triangle;", "▵", 10, 3⟩,
    ⟨"&blacktriangleright;", "▸", 20, 3⟩, ⟨"&rtri;", "▹", 6, 3⟩, ⟨"&bigtriangledown;", "▽", 17, 3⟩,
    ⟨"&blacktriangledown;", "▾", 19, 3⟩, ⟨"&triangledown;", "▿", 14, 3⟩, ⟨"&blacktriangleleft;", "◂", 19, 3⟩,
    ⟨"&ltri;", "◃", 6, 3⟩, ⟨"&lozenge;", "◊", 9, 3⟩, ⟨"&cir;", "○", 5, 3⟩, ⟨"&tridot;", "◬", 8, 3⟩,
    ⟨"&bigcirc;", "◯", 9, 3⟩, ⟨"&ultri;", "◸", 7, 3⟩, ⟨"&urtri;", "◹", 7, 3⟩, ⟨"&lltri;", "◺", 7, 3⟩,
    ⟨"&EmptySmallSquare;", "◻", 18, 3⟩, ⟨"&FilledSmallSquare;", "◼", 19, 3⟩, ⟨"&starf;", "★", 7, 3⟩,
    ⟨"&star;", "☆", 6, 3⟩, ⟨"&phone;", "☎", 7, 3⟩, ⟨"&female;", "♀", 8, 3⟩, ⟨"&male;", "♂", 6, 3⟩,
    ⟨"&spadesuit;", "♠", 11, 3⟩, ⟨"&clubs;", "♣", 7, 3⟩, ⟨"&hearts;", "♥", 8, 3⟩, ⟨"&diamondsuit;", "♦", 13, 3⟩,
    ⟨"&sung;", "♪", 6, 3⟩, ⟨"&flat;", "♭", 6, 3⟩, ⟨"&natur;", "♮", 7, 3⟩, ⟨"&sharp;", "♯", 7, 3⟩,
    ⟨"&check;", "✓", 7, 3⟩, ⟨"&cross;", "✗", 7, 3⟩, ⟨"&maltese;", "✠", 9, 3⟩, ⟨"&sext;", "✶", 6, 3⟩,
    ⟨"&VerticalSeparator;", "❘", 19, 3⟩, ⟨"&lbbrk;", "❲", 7, 3⟩, ⟨"&rbbrk;", "❳", 7, 3⟩, ⟨"&bsolhsub;", "⟈", 10, 3⟩,
    ⟨"&suphsol;", "⟉", 9, 3⟩, ⟨"&LeftDoubleBracket;", "⟦", 19, 3⟩, ⟨"&RightDoubleBracket;", "⟧", 20, 3⟩,
    ⟨"&langle;", "⟨", 8, 3⟩, ⟨"&RightAngleBracket;", "⟩", 19, 3⟩, ⟨"&Lang;", "⟪", 6, 3⟩, ⟨"&Rang;", "⟫", 6, 3⟩,
    ⟨"&loang;", "⟬", 7, 3⟩, ⟨"&roang;", "⟭", 7, 3⟩, ⟨"&longleftarrow;", "⟵", 15, 3⟩, ⟨"&LongRightArrow;", "⟶", 16, 3⟩,
    ⟨"&LongLeftRightArrow;", "⟷", 20, 3⟩, ⟨"&xlArr;", "⟸", 7, 3⟩, ⟨"&DoubleLongRightArrow;", "⟹", 22, 3⟩,
    ⟨"&xhArr;", "⟺", 7, 3⟩, ⟨"&xmap;", "⟼", 6, 3⟩, ⟨"&dzigrarr;", "⟿", 10, 3⟩, ⟨"&nvlArr;", "⤂", 8, 3⟩,
    ⟨"&nvrArr;", "⤃", 8, 3⟩, ⟨"&nvHarr;", "⤄", 8, 3⟩, ⟨"&Map;", "⤅", 5, 3⟩, ⟨"&lbarr;", "⤌", 7, 3⟩,
    ⟨"&bkarow;", "⤍", 8, 3⟩, ⟨"&lBarr;", "⤎", 7, 3⟩, ⟨"&dbkarow;", "⤏", 9, 3⟩, ⟨"&drbkarow;", "⤐", 10, 3⟩,
    ⟨"&DDotrahd;", "⤑", 10, 3⟩, ⟨"&UpArrowBar;", "⤒", 12, 3⟩, ⟨"&DownArrowBar;", "⤓", 14, 3⟩, ⟨"&Rarrtl;", "⤖", 8, 3⟩,
    ⟨"&latail;", "⤙", 8, 3⟩, ⟨"&ratail;", "⤚", 8, 3⟩, ⟨"&lAtail;", "⤛", 8, 3⟩, ⟨"&rAtail;", "⤜", 8, 3⟩,
    ⟨"&larrfs;", "⤝", 8, 3⟩, ⟨"&rarrfs;", "⤞", 8, 3⟩, ⟨"&larrbfs;", "⤟", 9, 3⟩, ⟨"&rarrbfs;", "⤠", 9, 3⟩,
    ⟨"&nwarhk;", "⤣", 8, 3⟩, ⟨"&nearhk;", "⤤", 8, 3⟩, ⟨"&searhk;", "⤥", 8, 3⟩, ⟨"&swarhk;", "⤦", 8, 3⟩,
    ⟨"&nwnear;", "⤧", 8, 3⟩, ⟨"&toea;", "⤨", 6, 3⟩, ⟨"&seswar;", "⤩", 8, 3⟩, ⟨"&swnwar;", "⤪", 8, 3⟩,
    ⟨"&rarrc;", "⤳", 7, 3⟩, ⟨"&nrarrc;", "⤳̸", 8, 5⟩, ⟨"&cudarrr;", "⤵", 9, 3⟩, ⟨"&ldca;", "⤶", 6, 3⟩,
    ⟨"&rdca;", "⤷", 6, 3⟩, ⟨"&cudarrl;", "⤸", 9, 3⟩, ⟨"&larrpl;", "⤹", 8, 3⟩, ⟨"&curarrm;", "⤼", 9, 3⟩,
    ⟨"&cularrp;", "⤽", 9, 3⟩, ⟨"&rarrpl;", "⥅", 8, 3⟩, ⟨"&harrcir;", "⥈", 9, 3⟩, ⟨"&Uarrocir;", "⥉", 10, 3⟩,
    ⟨"&lurdshar;", "⥊", 10, 3⟩, ⟨"&ldrushar;", "⥋", 10, 3⟩, ⟨"&LeftRightVector;", "⥎", 17, 3⟩,
    ⟨"&RightUpDownVector;", "⥏", 19, 3⟩, ⟨"&DownLeftRightVector;", "⥐", 21, 3⟩, ⟨"&LeftUpDownVector;", "⥑", 18, 3⟩,
    ⟨"&LeftVectorBar;", "⥒", 15, 3⟩, ⟨"&RightVectorBar;", "⥓", 16, 3⟩, ⟨"&RightUpVectorBar;", "⥔", 18, 3⟩,
    ⟨"&RightDownVectorBar;", "⥕", 20, 3⟩, ⟨"&DownLeftVectorBar;", "⥖", 19, 3⟩, ⟨"&DownRightVectorBar;", "⥗", 20, 3⟩,
    ⟨"&LeftUpVectorBar;", "⥘", 17, 3⟩, ⟨"&LeftDownVectorBar;", "⥙", 19, 3⟩, ⟨"&LeftTeeVector;", "⥚", 15, 3⟩,
    ⟨"&RightTeeVector;", "⥛", 16, 3⟩, ⟨"&RightUpTeeVector;", "⥜", 18, 3⟩, ⟨"&RightDownTeeVector;", "⥝", 20, 3⟩,
    ⟨"&DownLeftTeeVector;", "⥞", 19, 3⟩, ⟨"&DownRightTeeVector;", "⥟", 20, 3⟩, ⟨"&LeftUpTeeVector;", "⥠", 17, 3⟩,
    ⟨"&LeftDownTeeVector;", "⥡", 19, 3⟩, ⟨"&lHar;", "⥢", 6, 3⟩, ⟨"&uHar;", "⥣", 6, 3⟩, ⟨"&rHar;", "⥤", 6, 3⟩,
    ⟨"&dHar;", "⥥", 6, 3⟩, ⟨"&luruhar;", "⥦", 9, 3⟩, ⟨"&ldrdhar;", "⥧", 9, 3⟩, ⟨"&ruluhar;", "⥨", 9, 3⟩,
    ⟨"&rdldhar;", "⥩", 9, 3⟩, ⟨"&lharul;", "⥪", 8, 3⟩, ⟨"&llhard;", "⥫", 8, 3⟩, ⟨"&rharul;", "⥬", 8, 3⟩,
    ⟨"&lrhard;", "⥭", 8, 3⟩, ⟨"&udhar;", "⥮", 7, 3⟩, ⟨"&ReverseUpEquilibrium;", "⥯", 22, 3⟩,
    ⟨"&RoundImplies;", "⥰", 14, 3⟩, ⟨"&erarr;", "⥱", 7, 3⟩, ⟨"&simrarr;", "⥲", 9, 3⟩, ⟨"&larrsim;", "⥳", 9, 3⟩,
    ⟨"&rarrsim;", "⥴", 9, 3⟩, ⟨"&rarrap;", "⥵", 8, 3⟩, ⟨"&ltlarr;", "⥶", 8, 3⟩, ⟨"&gtrarr;", "⥸", 8, 3⟩,
    ⟨"&subrarr;", "⥹", 9, 3⟩, ⟨"&suplarr;", "⥻", 9, 3⟩, ⟨"&lfisht;", "⥼", 8, 3⟩, ⟨"&rfisht;", "⥽", 8, 3⟩,
    ⟨"&ufisht;", "⥾", 8, 3⟩, ⟨"&dfisht;", "⥿", 8, 3⟩, ⟨"&lopar;", "⦅", 7, 3⟩, ⟨"&ropar;", "⦆", 7, 3⟩,
    ⟨"&lbrke;", "⦋", 7, 3⟩, ⟨"&rbrke;", "⦌", 7, 3⟩, ⟨"&lbrkslu;", "⦍", 9, 3⟩, ⟨"&rbrksld;", "⦎", 9, 3⟩,
    ⟨"&lbrksld;", "⦏", 9, 3⟩, ⟨"&rbrkslu;", "⦐", 9, 3⟩, ⟨"&langd;", "⦑", 7, 3⟩, ⟨"&rangd;", "⦒", 7, 3⟩,
    ⟨"&lparlt;", "⦓", 8, 3⟩, ⟨"&rpargt;", "⦔", 8, 3⟩, ⟨"&gtlPar;", "⦕", 8, 3⟩, ⟨"&ltrPar;", "⦖", 8, 3⟩,
    ⟨"&vzigzag;", "⦚", 9, 3⟩, ⟨"&vangrt;", "⦜", 8, 3⟩, ⟨"&angrtvbd;", "⦝", 10, 3⟩, ⟨"&ange;", "⦤", 6, 3⟩,
    ⟨"&range;", "⦥", 7, 3⟩, ⟨"&dwangle;", "⦦", 9, 3⟩, ⟨"&uwangle;", "⦧", 9, 3⟩, ⟨"&angmsdaa;", "⦨", 10, 3⟩,
    ⟨"&angmsdab;", "⦩", 10, 3⟩, ⟨"&angmsdac;", "⦪", 10, 3⟩, ⟨"&angmsdad;", "⦫", 10, 3⟩, ⟨"&angmsdae;", "⦬", 10, 3⟩,
    ⟨"&angmsdaf;", "⦭", 10, 3⟩, ⟨"&angmsdag;", "⦮", 10, 3⟩, ⟨"&angmsdah;", "⦯", 10, 3⟩, ⟨"&bemptyv;", "⦰", 9, 3⟩,
    ⟨"&demptyv;", "⦱", 9, 3⟩, ⟨"&cemptyv;", "⦲", 9, 3⟩, ⟨"&raemptyv;", "⦳", 10, 3⟩, ⟨"&laemptyv;", "⦴", 10, 3⟩,
    ⟨"&ohbar;", "⦵", 7, 3⟩, ⟨"&omid;", "⦶", 6, 3⟩, ⟨"&opar;", "⦷", 6, 3⟩, ⟨"&operp;", "⦹", 7, 3⟩,
    ⟨"&olcross;", "⦻", 9, 3⟩, ⟨"&odsold;", "⦼", 8, 3⟩, ⟨"&olcir;", "⦾", 7, 3⟩, ⟨"&ofcir;", "⦿", 7, 3⟩,
    ⟨"&olt;", "⧀", 5, 3⟩, ⟨"&ogt;", "⧁", 5, 3⟩, ⟨"&cirscir;", "⧂", 9, 3⟩, ⟨"&cirE;", "⧃", 6, 3⟩,
    ⟨"&solb;", "⧄", 6, 3⟩, ⟨"&bsolb;", "⧅", 7, 3⟩, ⟨"&boxbox;", "⧉", 8, 3⟩, ⟨"&trisb;", "⧍", 7, 3⟩,
    ⟨"&rtriltri;", "⧎", 10, 3⟩, ⟨"&LeftTriangleBar;", "⧏", 17, 3⟩, ⟨"&NotLeftTriangleBar;", "⧏̸", 20, 5⟩,
    ⟨"&RightTriangleBar;", "⧐", 18, 3⟩, ⟨"&NotRightTriangleBar;", "⧐̸", 21, 5⟩, ⟨"&iinfin;", "⧜", 8, 3⟩,
    ⟨"&infintie;", "⧝", 10, 3⟩, ⟨"&nvinfin;", "⧞", 9, 3⟩, ⟨"&eparsl;", "⧣", 8, 3⟩, ⟨"&smeparsl;", "⧤", 10, 3⟩,
    ⟨"&eqvparsl;", "⧥", 10, 3⟩, ⟨"&lozf;", "⧫", 6, 3⟩, ⟨"&RuleDelayed;", "⧴", 13, 3⟩, ⟨"&dsol;", "⧶", 6, 3⟩,
    ⟨"&xodot;", "⨀", 7, 3⟩, ⟨"&bigoplus;", "⨁", 10, 3⟩, ⟨"&bigotimes;", "⨂", 11, 3⟩, ⟨"&biguplus;", "⨄", 10, 3⟩,
    ⟨"&bigsqcup;", "⨆", 10, 3⟩, ⟨"&iiiint;", "⨌", 8, 3⟩, ⟨"&fpartint;", "⨍", 10, 3⟩, ⟨"&cirfnint;", "⨐", 10, 3⟩,
    ⟨"&awint;", "⨑", 7, 3⟩, ⟨"&rppolint;", "⨒", 10, 3⟩, ⟨"&scpolint;", "⨓", 10, 3⟩, ⟨"&npolint;", "⨔", 9, 3⟩,
    ⟨"&pointint;", "⨕", 10, 3⟩, ⟨"&quatint;", "⨖", 9, 3⟩, ⟨"&intlarhk;", "⨗", 10, 3⟩, ⟨"&pluscir;", "⨢", 9, 3⟩,
    ⟨"&plusacir;", "⨣", 10, 3⟩, ⟨"&simplus;", "⨤", 9, 3⟩, ⟨"&plusdu;", "⨥", 8, 3⟩, ⟨"&plussim;", "⨦", 9, 3⟩,
    ⟨"&plustwo;", "⨧", 9, 3⟩, ⟨"&mcomma;", "⨩", 8, 3⟩, ⟨"&minusdu;", "⨪", 9, 3⟩, ⟨"&loplus;", "⨭", 8, 3⟩,
    ⟨"&roplus;", "⨮", 8, 3⟩, ⟨"&Cross;", "⨯", 7, 3⟩, ⟨"&timesd;", "⨰", 8, 3⟩, ⟨"&timesbar;", "⨱", 10, 3⟩,
    ⟨"&smashp;", "⨳", 8, 3⟩, ⟨"&lotimes;", "⨴", 9, 3⟩, ⟨"&rotimes;", "⨵", 9, 3⟩, ⟨"&otimesas;", "⨶", 10, 3⟩,
    ⟨"&Otimes;", "⨷", 8, 3⟩, ⟨"&odiv;", "⨸", 6, 3⟩, ⟨"&triplus;", "⨹", 9, 3⟩, ⟨"&triminus;", "⨺", 10, 3⟩,
    ⟨"&tritime;", "⨻", 9, 3⟩, ⟨"&iprod;", "⨼", 7, 3⟩, ⟨"&amalg;", "⨿", 7, 3⟩, ⟨"&capdot;", "⩀", 8, 3⟩,
    ⟨"&ncup;", "⩂", 6, 3⟩, ⟨"&ncap;", "⩃", 6, 3⟩, ⟨"&capand;", "⩄", 8, 3⟩, ⟨"&cupor;", "⩅", 7, 3⟩,
    ⟨"&cupcap;", "⩆", 8, 3⟩, ⟨"&capcup;", "⩇", 8, 3⟩, ⟨"&cupbrcap;", "⩈", 10, 3⟩, ⟨"&capbrcup;", "⩉", 10, 3⟩,
    ⟨"&cupcup;", "⩊", 8, 3⟩, ⟨"&capcap;", "⩋", 8, 3⟩, ⟨"&ccups;", "⩌", 7, 3⟩, ⟨"&ccaps;", "⩍", 7, 3⟩,
    ⟨"&ccupssm;", "⩐", 9, 3⟩, ⟨"&And;", "⩓", 5, 3⟩, ⟨"&Or;", "⩔", 4, 3⟩, ⟨"&andand;", "⩕", 8, 3⟩,
    ⟨"&oror;", "⩖", 6, 3⟩, ⟨"&orslope;", "⩗", 9, 3⟩, ⟨"&andslope;", "⩘", 10, 3⟩, ⟨"&andv;", "⩚", 6, 3⟩,
    ⟨"&orv;", "⩛", 5, 3⟩, ⟨"&andd;", "⩜", 6, 3⟩, ⟨"&ord;", "⩝", 5, 3⟩, ⟨"&wedbar;", "⩟", 8, 3⟩,
    ⟨"&sdote;", "⩦", 7, 3⟩, ⟨"&simdot;", "⩪", 8, 3⟩, ⟨"&congdot;", "⩭", 9, 3⟩, ⟨"&ncongdot;", "⩭̸", 10, 5⟩,
    ⟨"&easter;", "⩮", 8, 3⟩, ⟨"&apacir;", "⩯", 8, 3⟩, ⟨"&apE;", "⩰", 5, 3⟩, ⟨"&napE;", "⩰̸", 6, 5⟩,
    ⟨"&eplus;", "⩱", 7, 3⟩, ⟨"&pluse;", "⩲", 7, 3⟩, ⟨"&Esim;", "⩳", 6, 3⟩, ⟨"&Colone;", "⩴", 8, 3⟩,
    ⟨"&Equal;", "⩵", 7, 3⟩, ⟨"&ddotseq;", "⩷", 9, 3⟩, ⟨"&equivDD;", "⩸", 9, 3⟩, ⟨"&ltcir;", "⩹", 7, 3⟩,
    ⟨"&gtcir;", "⩺", 7, 3⟩, ⟨"&ltquest;", "⩻", 9, 3⟩, ⟨"&gtquest;", "⩼", 9, 3⟩, ⟨"&les;", "⩽", 5, 3⟩,
    ⟨"&nles;", "⩽̸", 6, 5⟩, ⟨"&ges;", "⩾", 5, 3⟩, ⟨"&nges;", "⩾̸", 6, 5⟩, ⟨"&lesdot;", "⩿", 8, 3⟩,
    ⟨"&gesdot;", "⪀", 8, 3⟩, ⟨"&lesdoto;", "⪁", 9, 3⟩, ⟨"&gesdoto;", "⪂", 9, 3⟩, ⟨"&lesdotor;", "⪃", 10, 3⟩,
    ⟨"&gesdotol;", "⪄", 10, 3⟩, ⟨"&lap;", "⪅", 5, 3⟩, ⟨"&gap;", "⪆", 5, 3⟩, ⟨"&lne;", "⪇", 5, 3⟩,
    ⟨"&gne;", "⪈", 5, 3⟩, ⟨"&lnap;", "⪉", 6, 3⟩, ⟨"&gnap;", "⪊", 6, 3⟩, ⟨"&lesseqqgtr;", "⪋", 12, 3⟩,
    ⟨"&gEl;", "⪌", 5, 3⟩, ⟨"&lsime;", "⪍", 7, 3⟩, ⟨"&gsime;", "⪎", 7, 3⟩, ⟨"&lsimg;", "⪏", 7, 3⟩,
    ⟨"&gsiml;", "⪐", 7, 3⟩, ⟨"&lgE;", "⪑", 5, 3⟩, ⟨"&glE;", "⪒", 5, 3⟩, ⟨"&lesges;", "⪓", 8, 3⟩,
    ⟨"&gesles;", "⪔", 8, 3⟩, ⟨"&els;", "⪕", 5, 3⟩, ⟨"&egs;", "⪖", 5, 3⟩, ⟨"&elsdot;", "⪗", 8, 3⟩,
    ⟨"&egsdot;", "⪘", 8, 3⟩, ⟨"&el;", "⪙", 4, 3⟩, ⟨"&eg;", "⪚", 4, 3⟩, ⟨"&siml;", "⪝", 6, 3⟩, ⟨"&simg;", "⪞", 6, 3⟩,
    ⟨"&simlE;", "⪟", 7, 3⟩, ⟨"&simgE;", "⪠", 7, 3⟩, ⟨"&LessLess;", "⪡", 10, 3⟩, ⟨"&NotNestedLessLess;", "⪡̸", 19, 5⟩,
    ⟨"&GreaterGreater;", "⪢", 16, 3⟩, ⟨"&NotNestedGreaterGreater;", "⪢̸", 25, 5⟩, ⟨"&glj;", "⪤", 5, 3⟩,
    ⟨"&gla;", "⪥", 5, 3⟩, ⟨"&ltcc;", "⪦", 6, 3⟩, ⟨"&gtcc;", "⪧", 6, 3⟩, ⟨"&lescc;", "⪨", 7, 3⟩,
    ⟨"&gescc;", "⪩", 7, 3⟩, ⟨"&smt;", "⪪", 5, 3⟩, ⟨"&lat;", "⪫", 5, 3⟩, ⟨"&smte;", "⪬", 6, 3⟩,
    ⟨"&smtes;", "⪬︀", 7, 6⟩, ⟨"&late;", "⪭", 6, 3⟩, ⟨"&lates;", "⪭︀", 7, 6⟩, ⟨"&bumpE;", "⪮", 7, 3⟩,
    ⟨"&preceq;", "⪯", 8, 3⟩, ⟨"&NotPrecedesEqual;", "⪯̸", 18, 5⟩, ⟨"&SucceedsEqual;", "⪰", 15, 3⟩,
    ⟨"&NotSucceedsEqual;", "⪰̸", 18, 5⟩, ⟨"&prE;", "⪳", 5, 3⟩, ⟨"&scE;", "⪴", 5, 3⟩, ⟨"&precneqq;", "⪵", 10, 3⟩,
    ⟨"&scnE;", "⪶", 6, 3⟩, ⟨"&precapprox;", "⪷", 12, 3⟩, ⟨"&succapprox;", "⪸", 12, 3⟩, ⟨"&precnapprox;", "⪹", 13, 3⟩,
    ⟨"&succnapprox;", "⪺", 13, 3⟩, ⟨"&Pr;", "⪻", 4, 3⟩, ⟨"&Sc;", "⪼", 4, 3⟩, ⟨"&subdot;", "⪽", 8, 3⟩,
    ⟨"&supdot;", "⪾", 8, 3⟩, ⟨"&subplus;", "⪿", 9, 3⟩, ⟨"&supplus;", "⫀", 9, 3⟩, ⟨"&submult;", "⫁", 9, 3⟩,
    ⟨"&supmult;", "⫂", 9, 3⟩, ⟨"&subedot;", "⫃", 9, 3⟩, ⟨"&supedot;", "⫄", 9, 3⟩, ⟨"&subE;", "⫅", 6, 3⟩,
    ⟨"&nsubE;", "⫅̸", 7, 5⟩, ⟨"&supseteqq;", "⫆", 11, 3⟩, ⟨"&nsupseteqq;", "⫆̸", 12, 5⟩, ⟨"&subsim;", "⫇", 8, 3⟩,
    ⟨"&supsim;", "⫈", 8, 3⟩, ⟨"&subsetneqq;", "⫋", 12, 3⟩, ⟨"&vsubnE;", "⫋︀", 8, 6⟩, ⟨"&supnE;", "⫌", 7, 3⟩,
    ⟨"&varsupsetneqq;", "⫌︀", 15, 6⟩, ⟨"&csub;", "⫏", 6, 3⟩, ⟨"&csup;", "⫐", 6, 3⟩, ⟨"&csube;", "⫑", 7, 3⟩,
    ⟨"&csupe;", "⫒", 7, 3⟩, ⟨"&subsup;", "⫓", 8, 3⟩, ⟨"&supsub;", "⫔", 8, 3⟩, ⟨"&subsub;", "⫕", 8, 3⟩,
    ⟨"&supsup;", "⫖", 8, 3⟩, ⟨"&suphsub;", "⫗", 9, 3⟩, ⟨"&supdsub;", "⫘", 9, 3⟩, ⟨"&forkv;", "⫙", 7, 3⟩,
    ⟨"&topfork;", "⫚", 9, 3⟩, ⟨"&mlcp;", "⫛", 6, 3⟩, ⟨"&Dashv;", "⫤", 7, 3⟩, ⟨"&Vdashl;", "⫦", 8, 3⟩,
    ⟨"&Barv;", "⫧", 6, 3⟩, ⟨"&vBar;", "⫨", 6, 3⟩, ⟨"&vBarv;", "⫩", 7, 3⟩, ⟨"&Vbar;", "⫫", 6, 3⟩, ⟨"&Not;", "⫬", 5, 3⟩,
    ⟨"&bNot;", "⫭", 6, 3⟩, ⟨"&rnmid;", "⫮", 7, 3⟩, ⟨"&cirmid;", "⫯", 8, 3⟩, ⟨"&midcir;", "⫰", 8, 3⟩,
    ⟨"&topcir;", "⫱", 8, 3⟩, ⟨"&nhpar;", "⫲", 7, 3⟩, ⟨"&parsim;", "⫳", 8, 3⟩, ⟨"&parsl;", "⫽", 7, 3⟩,
    ⟨"&nparsl;", "⫽⃥", 8, 6⟩, ⟨"&fflig;", "ﬀ", 7, 3⟩, ⟨"&filig;", "ﬁ", 7, 3⟩, ⟨"&fllig;", "ﬂ", 7, 3⟩,
    ⟨"&ffilig;", "ﬃ", 8, 3⟩, ⟨"&ffllig;", "ﬄ", 8, 3⟩, ⟨"&Ascr;", "𝒜", 6, 4⟩, ⟨"&Cscr;", "𝒞", 6, 4⟩,
    ⟨"&Dscr;", "𝒟", 6, 4⟩, ⟨"&Gscr;", "𝒢", 6, 4⟩, ⟨"&Jscr;", "𝒥", 6, 4⟩, ⟨"&Kscr;", "𝒦", 6, 4⟩, ⟨"&Nscr;", "𝒩", 6, 4⟩,
    ⟨"&Oscr;", "𝒪", 6, 4⟩, ⟨"&Pscr;", "𝒫", 6, 4⟩, ⟨"&Qscr;", "𝒬", 6, 4⟩, ⟨"&Sscr;", "𝒮", 6, 4⟩, ⟨"&Tscr;", "𝒯", 6, 4⟩,
    ⟨"&Uscr;", "𝒰", 6, 4⟩, ⟨"&Vscr;", "𝒱", 6, 4⟩, ⟨"&Wscr;", "𝒲", 6, 4⟩, ⟨"&Xscr;", "𝒳", 6, 4⟩, ⟨"&Yscr;", "𝒴", 6, 4⟩,
    ⟨"&Zscr;", "𝒵", 6, 4⟩, ⟨"&ascr;", "𝒶", 6, 4⟩, ⟨"&bscr;", "𝒷", 6, 4⟩, ⟨"&cscr;", "𝒸", 6, 4⟩, ⟨"&dscr;", "𝒹", 6, 4⟩,
    ⟨"&fscr;", "𝒻", 6, 4⟩, ⟨"&hscr;", "𝒽", 6, 4⟩, ⟨"&iscr;", "𝒾", 6, 4⟩, ⟨"&jscr;", "𝒿", 6, 4⟩, ⟨"&kscr;", "𝓀", 6, 4⟩,
    ⟨"&lscr;", "𝓁", 6, 4⟩, ⟨"&mscr;", "𝓂", 6, 4⟩, ⟨"&nscr;", "𝓃", 6, 4⟩, ⟨"&pscr;", "𝓅", 6, 4⟩, ⟨"&qscr;", "𝓆", 6, 4⟩,
    ⟨"&rscr;", "𝓇", 6, 4⟩, ⟨"&sscr;", "𝓈", 6, 4⟩, ⟨"&tscr;", "𝓉", 6, 4⟩, ⟨"&uscr;", "𝓊", 6, 4⟩, ⟨"&vscr;", "𝓋", 6, 4⟩,
    ⟨"&wscr;", "𝓌", 6, 4⟩, ⟨"&xscr;", "𝓍", 6, 4⟩, ⟨"&yscr;", "𝓎", 6, 4⟩, ⟨"&zscr;", "𝓏", 6, 4⟩, ⟨"&Afr;", "𝔄", 5, 4⟩,
    ⟨"&Bfr;", "𝔅", 5, 4⟩, ⟨"&Dfr;", "𝔇", 5, 4⟩, ⟨"&Efr;", "𝔈", 5, 4⟩, ⟨"&Ffr;", "𝔉", 5, 4⟩, ⟨"&Gfr;", "𝔊", 5, 4⟩,
    ⟨"&Jfr;", "𝔍", 5, 4⟩, ⟨"&Kfr;", "𝔎", 5, 4⟩, ⟨"&Lfr;", "𝔏", 5, 4⟩, ⟨"&Mfr;", "𝔐", 5, 4⟩, ⟨"&Nfr;", "𝔑", 5, 4⟩,
    ⟨"&Ofr;", "𝔒", 5, 4⟩, ⟨"&Pfr;", "𝔓", 5, 4⟩, ⟨"&Qfr;", "𝔔", 5, 4⟩, ⟨"&Sfr;", "𝔖", 5, 4⟩, ⟨"&Tfr;", "𝔗", 5, 4⟩,
    ⟨"&Ufr;", "𝔘", 5, 4⟩, ⟨"&Vfr;", "𝔙", 5, 4⟩, ⟨"&Wfr;", "𝔚", 5, 4⟩, ⟨"&Xfr;", "𝔛", 5, 4⟩, ⟨"&Yfr;", "𝔜", 5, 4⟩,
    ⟨"&afr;", "𝔞", 5, 4⟩, ⟨"&bfr;", "𝔟", 5, 4⟩, ⟨"&cfr;", "𝔠", 5, 4⟩, ⟨"&dfr;", "𝔡", 5, 4⟩, ⟨"&efr;", "𝔢", 5, 4⟩,
    ⟨"&ffr;", "𝔣", 5, 4⟩, ⟨"&gfr;", "𝔤", 5, 4⟩, ⟨"&hfr;", "𝔥", 5, 4⟩, ⟨"&ifr;", "𝔦", 5, 4⟩, ⟨"&jfr;", "𝔧", 5, 4⟩,
    ⟨"&kfr;", "𝔨", 5, 4⟩, ⟨"&lfr;", "𝔩", 5, 4⟩, ⟨"&mfr;", "𝔪", 5, 4⟩, ⟨"&nfr;", "𝔫", 5, 4⟩, ⟨"&ofr;", "𝔬", 5, 4⟩,
    ⟨"&pfr;", "𝔭", 5, 4⟩, ⟨"&qfr;", "𝔮", 5, 4⟩, ⟨"&rfr;", "𝔯", 5, 4⟩, ⟨"&sfr;", "𝔰", 5, 4⟩, ⟨"&tfr;", "𝔱", 5, 4⟩,
    ⟨"&ufr;", "𝔲", 5, 4⟩, ⟨"&vfr;", "𝔳", 5, 4⟩, ⟨"&wfr;", "𝔴", 5, 4⟩, ⟨"&xfr;", "𝔵", 5, 4⟩, ⟨"&yfr;", "𝔶", 5, 4⟩,
    ⟨"&zfr;", "𝔷", 5, 4⟩, ⟨"&Aopf;", "𝔸", 6, 4⟩, ⟨"&Bopf;", "𝔹", 6, 4⟩, ⟨"&Dopf;", "𝔻", 6, 4⟩, ⟨"&Eopf;", "𝔼", 6, 4⟩,
    ⟨"&Fopf;", "𝔽", 6, 4⟩, ⟨"&Gopf;", "𝔾", 6, 4⟩, ⟨"&Iopf;", "𝕀", 6, 4⟩, ⟨"&Jopf;", "𝕁", 6, 4⟩, ⟨"&Kopf;", "𝕂", 6, 4⟩,
    ⟨"&Lopf;", "𝕃", 6, 4⟩, ⟨"&Mopf;", "𝕄", 6, 4⟩, ⟨"&Oopf;", "𝕆", 6, 4⟩, ⟨"&Sopf;", "𝕊", 6, 4⟩, ⟨"&Topf;", "𝕋", 6, 4⟩,
    ⟨"&Uopf;", "𝕌", 6, 4⟩, ⟨"&Vopf;", "𝕍", 6, 4⟩, ⟨"&Wopf;", "𝕎", 6, 4⟩, ⟨"&Xopf;", "𝕏", 6, 4⟩, ⟨"&Yopf;", "𝕐", 6, 4⟩,
    ⟨"&aopf;", "𝕒", 6, 4⟩, ⟨"&bopf;", "𝕓", 6, 4⟩, ⟨"&copf;", "𝕔", 6, 4⟩, ⟨"&dopf;", "𝕕", 6, 4⟩, ⟨"&eopf;", "𝕖", 6, 4⟩,
    ⟨"&fopf;", "𝕗", 6, 4⟩, ⟨"&gopf;", "𝕘", 6, 4⟩, ⟨"&hopf;", "𝕙", 6, 4⟩, ⟨"&iopf;", "𝕚", 6, 4⟩, ⟨"&jopf;", "𝕛", 6, 4⟩,
    ⟨"&kopf;", "𝕜", 6, 4⟩, ⟨"&lopf;", "𝕝", 6, 4⟩, ⟨"&mopf;", "𝕞", 6, 4⟩, ⟨"&nopf;", "𝕟", 6, 4⟩, ⟨"&oopf;", "𝕠", 6, 4⟩,
    ⟨"&popf;", "𝕡", 6, 4⟩, ⟨"&qopf;", "𝕢", 6, 4⟩, ⟨"&ropf;", "𝕣", 6, 4⟩, ⟨"&sopf;", "𝕤", 6, 4⟩, ⟨"&topf;", "𝕥", 6, 4⟩,
    ⟨"&uopf;", "𝕦", 6, 4⟩, ⟨"&vopf;", "𝕧", 6, 4⟩, ⟨"&wopf;", "𝕨", 6, 4⟩, ⟨"&xopf;", "𝕩", 6, 4⟩, ⟨"&yopf;", "𝕪", 6, 4⟩,
    ⟨"&zopf;", "𝕫", 6, 4⟩]

/-- The bytes of a string literal. -/
def cBytes (s : String) : List UInt8 := s.toUTF8.data.toList

/-- One of the two entities that are shorter than what they stand for. -/
def BXHtmlEntity.longer (e : BXHtmlEntity) : Bool := e.entity = "&nLt;" || e.entity = "&nGt;"

/-- The lengths are those of the texts, an entity starts with an ampersand and has no NUL, and what it stands for is
    at most one byte longer. -/
structure BXHtmlEntity.WellFormed (e : BXHtmlEntity) : Prop where
  elen : (cBytes e.entity).length = e.elen
  ulen : (cBytes e.utf8).length = e.ulen
  ampersand : (cBytes e.entity).head? = some 38
  noNul : 0 ∉ cBytes e.entity
  grows : if e.longer then e.ulen = e.elen + 1 else e.ulen ≤ e.elen

instance (e : BXHtmlEntity) : Decidable e.WellFormed :=
  decidable_of_iff ((cBytes e.entity).length = e.elen ∧ (cBytes e.utf8).length = e.ulen ∧ (cBytes e.entity).head? = some 38 ∧
    0 ∉ cBytes e.entity ∧ if e.longer then e.ulen = e.elen + 1 else e.ulen ≤ e.elen)
    ⟨fun ⟨h₁, h₂, h₃, h₄, h₅⟩ => ⟨h₁, h₂, h₃, h₄, h₅⟩, fun ⟨h₁, h₂, h₃, h₄, h₅⟩ => ⟨h₁, h₂, h₃, h₄, h₅⟩⟩

/-- A table of entities whose entries are well formed. -/
structure HtmlTable where
  entries : List BXHtmlEntity
  wellFormed : ∀ e ∈ entries, e.WellFormed

def htmlTable : HtmlTable where
  entries := bxHtmlEntities
  wellFormed := by decide +kernel

end BxSync
