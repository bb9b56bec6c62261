/-!
# Work on texts

Patterns, templates, filled paragraphs and records.
-/

namespace BuiltinWrappers.Script.Indented.Library

/-- Patterns of texts. -/
def patterns : String := r#"
  |import _sre
  |A = ASCII = 256
  |I = IGNORECASE = 2
  |L = LOCALE = 4
  |M = MULTILINE = 8
  |S = DOTALL = 16
  |U = UNICODE = 32
  |X = VERBOSE = 64
  |T = TEMPLATE = 1
  |DEBUG = 128
  |NOFLAG = 0
  |RegexFlag = int
  |_names = dict()
  |
  |class error(Exception):
  |    def __init__(self, msg, pattern=None, pos=None):
  |        self.msg = msg
  |        self.pattern = pattern
  |        self.pos = pos
  |        if pattern is not None and pos is not None:
  |            msg = '%s at position %d' % (msg, pos)
  |            newline = '\n' if isinstance(pattern, str) else b'\n'
  |            self.lineno = pattern.count(newline, 0, pos) + 1
  |            self.colno = pos - pattern.rfind(newline, 0, pos)
  |            if newline in pattern:
  |                msg = '%s (line %d, column %d)' % (msg, self.lineno, self.colno)
  |        else:
  |            self.lineno = self.colno = None
  |        super().__init__(msg)
  |
  |PatternError = error
  |
  |class Match:
  |    def __init__(self, pattern, text, places, pos, endpos):
  |        self.re = pattern
  |        self.string = text
  |        self.regs = places
  |        self.pos = pos
  |        self.endpos = endpos
  |    def _index(self, group):
  |        if isinstance(group, int):
  |            if 0 <= group < len(self.regs):
  |                return group
  |        elif group in self.re.groupindex:
  |            return self.re.groupindex[group]
  |        raise IndexError('no such group')
  |    def _get(self, group, default=None):
  |        start, end = self.regs[self._index(group)]
  |        if start < 0:
  |            return default
  |        return self.string[start:end]
  |    def group(self, *groups):
  |        if not groups:
  |            return self._get(0)
  |        if len(groups) == 1:
  |            return self._get(groups[0])
  |        return tuple(self._get(group) for group in groups)
  |    def __getitem__(self, group):
  |        return self._get(group)
  |    def groups(self, default=None):
  |        return tuple(self._get(i, default) for i in range(1, len(self.regs)))
  |    def groupdict(self, default=None):
  |        return dict((name, self._get(i, default)) for name, i in self.re.groupindex.items())
  |    def start(self, group=0):
  |        return self.regs[self._index(group)][0]
  |    def end(self, group=0):
  |        return self.regs[self._index(group)][1]
  |    def span(self, group=0):
  |        return self.regs[self._index(group)]
  |    def expand(self, template):
  |        return _expand(_template(self.re, template), self)
  |    @property
  |    def lastindex(self):
  |        last = None
  |        best = -1
  |        for i in range(1, len(self.regs)):
  |            if self.regs[i][1] > best:
  |                best = self.regs[i][1]
  |                last = i
  |        return last
  |    @property
  |    def lastgroup(self):
  |        last = self.lastindex
  |        for name, i in self.re.groupindex.items():
  |            if i == last:
  |                return name
  |        return None
  |    def __repr__(self):
  |        return '<re.Match object; span=%r, match=%r>' % (self.span(), self.group())
  |    def __copy__(self):
  |        return self
  |    def __deepcopy__(self, memo):
  |        return self
  |
  |class Pattern:
  |    def __init__(self, pattern, flags):
  |        facts = _sre.facts(pattern, flags)
  |        if len(facts) == 2:
  |            raise error(facts[0], pattern, facts[1])
  |        self.pattern = pattern
  |        self.groups, self.groupindex, self.flags = facts
  |    def _find(self, text, pos, endpos, manner):
  |        if endpos is None:
  |            endpos = len(text)
  |        places = _sre.find(self.pattern, self.flags, text, pos, endpos, manner)
  |        if places is None:
  |            return None
  |        return Match(self, text, places, pos, endpos)
  |    def match(self, string, pos=0, endpos=None):
  |        return self._find(string, pos, endpos, 'match')
  |    def fullmatch(self, string, pos=0, endpos=None):
  |        return self._find(string, pos, endpos, 'fullmatch')
  |    def search(self, string, pos=0, endpos=None):
  |        return self._find(string, pos, endpos, 'search')
  |    def _all(self, text, pos=0, endpos=None):
  |        if endpos is None:
  |            endpos = len(text)
  |        found = _sre.find(self.pattern, self.flags, text, pos, endpos, 'all')
  |        return [Match(self, text, places, pos, endpos) for places in found]
  |    def finditer(self, string, pos=0, endpos=None):
  |        return iter(self._all(string, pos, endpos))
  |    def findall(self, string, pos=0, endpos=None):
  |        found = self._all(string, pos, endpos)
  |        empty = string[:0]
  |        if self.groups == 0:
  |            return [m.group() for m in found]
  |        if self.groups == 1:
  |            return [m._get(1, empty) for m in found]
  |        return [m.groups(empty) for m in found]
  |    def subn(self, repl, string, count=0):
  |        if callable(repl):
  |            make = repl
  |        else:
  |            parts = _template(self, repl)
  |            if len(parts) == 1 and not isinstance(parts[0], int):
  |                make = lambda m: parts[0]
  |            else:
  |                make = lambda m: _expand(parts, m)
  |        found = []
  |        last = 0
  |        number = 0
  |        for m in self._all(string):
  |            if count and number >= count:
  |                break
  |            number += 1
  |            found.append(string[last:m.start()])
  |            found.append(make(m))
  |            last = m.end()
  |        found.append(string[last:])
  |        return string[:0].join(found), number
  |    def sub(self, repl, string, count=0):
  |        return self.subn(repl, string, count)[0]
  |    def split(self, string, maxsplit=0):
  |        found = []
  |        last = 0
  |        number = 0
  |        for m in self._all(string):
  |            if maxsplit and number >= maxsplit:
  |                break
  |            number += 1
  |            found.append(string[last:m.start()])
  |            found.extend(m.groups())
  |            last = m.end()
  |        found.append(string[last:])
  |        return found
  |    def scanner(self, string):
  |        return self.finditer(string)
  |    def __repr__(self):
  |        names = [name for name, bit in (('re.IGNORECASE', 2), ('re.MULTILINE', 8),
  |                                        ('re.DOTALL', 16), ('re.VERBOSE', 64),
  |                                        ('re.ASCII', 256)) if self.flags & bit]
  |        if names:
  |            return 're.compile(%r, %s)' % (self.pattern, '|'.join(names))
  |        return 're.compile(%r)' % (self.pattern,)
  |    def __eq__(self, other):
  |        if isinstance(other, Pattern):
  |            return self.pattern == other.pattern and self.flags == other.flags
  |        return NotImplemented
  |    def __hash__(self):
  |        return hash(self.pattern)
  |    def __copy__(self):
  |        return self
  |    def __deepcopy__(self, memo):
  |        return self
  |
  |def _template(pattern, template):
  |    octets = isinstance(template, bytes)
  |    if octets:
  |        template = template.decode('latin-1')
  |    parts = []
  |    text = ''
  |    i = 0
  |    while i < len(template):
  |        c = template[i]
  |        if c != '\\':
  |            text += c
  |            i += 1
  |            continue
  |        i += 1
  |        if i >= len(template):
  |            raise error('bad escape (end of pattern)', template, i - 1)
  |        c = template[i]
  |        number = None
  |        if c == 'g':
  |            if template[i + 1:i + 2] != '<':
  |                raise error('missing <', template, i + 1)
  |            end = template.find('>', i)
  |            if end < 0:
  |                raise error('missing >, unterminated name', template, i + 2)
  |            name = template[i + 2:end]
  |            if not name:
  |                raise error('missing group name', template, i + 2)
  |            if name.isdigit():
  |                number = int(name)
  |            elif name in pattern.groupindex:
  |                number = pattern.groupindex[name]
  |            elif name.isidentifier():
  |                raise IndexError('unknown group name %r' % name)
  |            else:
  |                raise error('bad character in group name %r' % name, template, i + 2)
  |            start = i + 2
  |            i = end + 1
  |        elif c == '0':
  |            digits = c
  |            i += 1
  |            while len(digits) < 3 and template[i:i + 1] in tuple('01234567'):
  |                digits += template[i]
  |                i += 1
  |            text += chr(int(digits, 8) & 255)
  |            continue
  |        elif c in '123456789':
  |            start = i
  |            digits = c
  |            i += 1
  |            if template[i:i + 1].isdigit():
  |                digits += template[i]
  |                i += 1
  |                if (digits[0] in '01234567' and digits[1] in '01234567'
  |                        and template[i:i + 1] in tuple('01234567')):
  |                    text += chr(int(digits + template[i], 8) & 255)
  |                    i += 1
  |                    continue
  |            number = int(digits)
  |        else:
  |            simple = dict(zip('abfnrtv\\', '\a\b\f\n\r\t\v\\'))
  |            if c in simple:
  |                text += simple[c]
  |            elif c.isascii() and c.isalpha():
  |                raise error('bad escape \\' + c, template, i - 1)
  |            else:
  |                text += '\\' + c
  |            i += 1
  |            continue
  |        if number > pattern.groups:
  |            raise error('invalid group reference %d' % number, template, start)
  |        if text:
  |            parts.append(text.encode('latin-1') if octets else text)
  |        text = ''
  |        parts.append(number)
  |    if text or not parts:
  |        parts.append(text.encode('latin-1') if octets else text)
  |    return parts
  |
  |def _expand(parts, m):
  |    empty = m.string[:0]
  |    return empty.join(m._get(p, empty) if isinstance(p, int) else p for p in parts)
  |
  |_cache = dict()
  |
  |def compile(pattern, flags=0):
  |    if isinstance(pattern, Pattern):
  |        if flags:
  |            raise ValueError('cannot process flags argument with a compiled pattern')
  |        return pattern
  |    if not isinstance(pattern, (str, bytes)):
  |        raise TypeError('first argument must be string or compiled pattern')
  |    key = (type(pattern), pattern, int(flags))
  |    found = _cache.get(key)
  |    if found is None:
  |        found = Pattern(pattern, int(flags))
  |        _cache[key] = found
  |    return found
  |
  |def match(pattern, string, flags=0):
  |    return compile(pattern, flags).match(string)
  |
  |def fullmatch(pattern, string, flags=0):
  |    return compile(pattern, flags).fullmatch(string)
  |
  |def search(pattern, string, flags=0):
  |    return compile(pattern, flags).search(string)
  |
  |def sub(pattern, repl, string, count=0, flags=0):
  |    return compile(pattern, flags).sub(repl, string, count)
  |
  |def subn(pattern, repl, string, count=0, flags=0):
  |    return compile(pattern, flags).subn(repl, string, count)
  |
  |def split(pattern, string, maxsplit=0, flags=0):
  |    return compile(pattern, flags).split(string, maxsplit)
  |
  |def findall(pattern, string, flags=0):
  |    return compile(pattern, flags).findall(string)
  |
  |def finditer(pattern, string, flags=0):
  |    return compile(pattern, flags).finditer(string)
  |
  |def purge():
  |    _cache.clear()
  |
  |_special = '()[]?*+-|^$\\.&~# \t\n\r\v\f' + chr(123) + chr(125)
  |
  |def escape(pattern):
  |    if isinstance(pattern, str):
  |        return ''.join('\\' + c if c in _special else c for c in pattern)
  |    return escape(str(pattern, 'latin1')).encode('latin1')"#

/-- Classes of characters and templates. -/
def characterClasses : String := r#"
  |import re as _re
  |whitespace = ' \t\n\r\v\f'
  |ascii_lowercase = 'abcdefghijklmnopqrstuvwxyz'
  |ascii_uppercase = 'ABCDEFGHIJKLMNOPQRSTUVWXYZ'
  |ascii_letters = ascii_lowercase + ascii_uppercase
  |digits = '0123456789'
  |hexdigits = digits + 'abcdef' + 'ABCDEF'
  |octdigits = '01234567'
  |punctuation = ('!"' + '#$%&\'()*+,-./:;<=>?@[\\]^_`' + chr(123) + '|' + chr(125) + '~')
  |printable = digits + ascii_letters + punctuation + whitespace
  |
  |def capwords(s, sep=None):
  |    return (sep or ' ').join(map(str.capitalize, s.split(sep)))
  |
  |_missing = object()
  |
  |class Template:
  |    delimiter = '$'
  |    idpattern = '(?a:[_a-z][_a-z0-9]*)'
  |    braceidpattern = None
  |    flags = _re.IGNORECASE
  |    def __init__(self, template):
  |        self.template = template
  |    def _pattern(self):
  |        mark = _re.escape(self.delimiter)
  |        inner = self.braceidpattern or self.idpattern
  |        return _re.compile(mark + '(?:(?P<escaped>' + mark + ')|(?P<named>' + self.idpattern
  |                           + ')|' + chr(92) + chr(123) + '(?P<braced>' + inner + ')'
  |                           + chr(92) + chr(125) + '|(?P<invalid>))', self.flags)
  |    def _fill(self, given, safe):
  |        def convert(m):
  |            name = m.group('named') or m.group('braced')
  |            if name is not None:
  |                if safe and name not in given:
  |                    return m.group()
  |                return str(given[name])
  |            if m.group('escaped') is not None:
  |                return self.delimiter
  |            if safe:
  |                return m.group()
  |            place = m.start('invalid')
  |            lines = self.template[:place].splitlines(keepends=True)
  |            if not lines:
  |                col, line = 1, 1
  |            else:
  |                col = place - len(''.join(lines[:-1]))
  |                line = len(lines)
  |            raise ValueError('Invalid placeholder in string: line %d, col %d' % (line, col))
  |        return self._pattern().sub(convert, self.template)
  |    def substitute(self, mapping=_missing, /, **kws):
  |        return self._fill(_merged(mapping, kws), False)
  |    def safe_substitute(self, mapping=_missing, /, **kws):
  |        return self._fill(_merged(mapping, kws), True)
  |    def get_identifiers(self):
  |        found = []
  |        for m in self._pattern().finditer(self.template):
  |            name = m.group('named') or m.group('braced')
  |            if name is not None and name not in found:
  |                found.append(name)
  |        return found
  |    def is_valid(self):
  |        return all(m.group('invalid') is None for m in self._pattern().finditer(self.template))
  |
  |def _merged(mapping, kws):
  |    found = dict() if mapping is _missing else dict(mapping)
  |    found.update(kws)
  |    return found
  |
  |class Formatter:
  |    def format(self, format_string, /, *args, **kwargs):
  |        return self.vformat(format_string, args, kwargs)
  |    def vformat(self, format_string, args, kwargs):
  |        return format_string.format(*args, **kwargs)
  |    def format_field(self, value, format_spec):
  |        return format(value, format_spec)"#

/-- Filling and indenting paragraphs. -/
def paragraphs : String := r#"
  |import re
  |_whitespace = '\t\n\x0b\x0c\r '
  |_nowhitespace = '[^' + '\t\n\x0b\x0c\r ' + ']'
  |_word = '[\\w!"' + "'" + '&.,?]'
  |_letter = '[^\\d\\W]'
  |
  |class TextWrapper:
  |    _table = dict((ord(c), ' ') for c in _whitespace)
  |    _split = re.compile(
  |        '([' + _whitespace + ']+|(?<=' + _word + ')-' + chr(123) + '2,' + chr(125)
  |        + '(?=\\w)|' + _nowhitespace + '+?(?:-(?:(?<=' + _letter + chr(123) + '2' + chr(125)
  |        + '-)|(?<=' + _letter + '-' + _letter + '-))(?=' + _letter + '-?' + _letter + ')|(?=['
  |        + _whitespace + ']|\\Z)|(?<=' + _word + ')(?=-' + chr(123) + '2,' + chr(125)
  |        + '\\w)))')
  |    _simple = re.compile('([' + _whitespace + ']+)')
  |    _sentence = re.compile('[a-z][.!?]["' + "'" + ']?\\Z')
  |    def __init__(self, width=70, initial_indent='', subsequent_indent='', expand_tabs=True,
  |                 replace_whitespace=True, fix_sentence_endings=False, break_long_words=True,
  |                 drop_whitespace=True, break_on_hyphens=True, tabsize=8, *, max_lines=None,
  |                 placeholder=' [...]'):
  |        self.width = width
  |        self.initial_indent = initial_indent
  |        self.subsequent_indent = subsequent_indent
  |        self.expand_tabs = expand_tabs
  |        self.replace_whitespace = replace_whitespace
  |        self.fix_sentence_endings = fix_sentence_endings
  |        self.break_long_words = break_long_words
  |        self.drop_whitespace = drop_whitespace
  |        self.break_on_hyphens = break_on_hyphens
  |        self.tabsize = tabsize
  |        self.max_lines = max_lines
  |        self.placeholder = placeholder
  |    def _chunks(self, text):
  |        if self.expand_tabs:
  |            text = text.expandtabs(self.tabsize)
  |        if self.replace_whitespace:
  |            text = text.translate(self._table)
  |        pattern = self._split if self.break_on_hyphens else self._simple
  |        return [c for c in pattern.split(text) if c]
  |    def _fix(self, chunks):
  |        i = 0
  |        while i < len(chunks) - 1:
  |            if chunks[i + 1] == ' ' and self._sentence.search(chunks[i]):
  |                chunks[i + 1] = '  '
  |                i += 2
  |            else:
  |                i += 1
  |    def _long(self, chunks, line, length, width):
  |        space = 1 if width < 1 else width - length
  |        if self.break_long_words:
  |            end = space
  |            chunk = chunks[-1]
  |            if self.break_on_hyphens and len(chunk) > space:
  |                hyphen = chunk.rfind('-', 0, space)
  |                if hyphen > 0 and any(c != '-' for c in chunk[:hyphen]):
  |                    end = hyphen + 1
  |            line.append(chunk[:end])
  |            chunks[-1] = chunk[end:]
  |        elif not line:
  |            line.append(chunks.pop())
  |    def wrap(self, text):
  |        chunks = self._chunks(text)
  |        if self.fix_sentence_endings:
  |            self._fix(chunks)
  |        lines = []
  |        if self.width <= 0:
  |            raise ValueError('invalid width %r (must be > 0)' % self.width)
  |        if self.max_lines is not None:
  |            indent = self.subsequent_indent if self.max_lines > 1 else self.initial_indent
  |            if len(indent) + len(self.placeholder.lstrip()) > self.width:
  |                raise ValueError('placeholder too large for max width')
  |        chunks.reverse()
  |        while chunks:
  |            line = []
  |            length = 0
  |            indent = self.subsequent_indent if lines else self.initial_indent
  |            width = self.width - len(indent)
  |            if self.drop_whitespace and chunks[-1].strip() == '' and lines:
  |                del chunks[-1]
  |            while chunks:
  |                size = len(chunks[-1])
  |                if length + size > width:
  |                    break
  |                line.append(chunks.pop())
  |                length += size
  |            if chunks and len(chunks[-1]) > width:
  |                self._long(chunks, line, length, width)
  |                length = sum(map(len, line))
  |            if self.drop_whitespace and line and line[-1].strip() == '':
  |                length -= len(line[-1])
  |                del line[-1]
  |            if not line:
  |                continue
  |            if (self.max_lines is None or len(lines) + 1 < self.max_lines
  |                    or (not chunks or self.drop_whitespace and len(chunks) == 1
  |                        and not chunks[0].strip()) and length <= width):
  |                lines.append(indent + ''.join(line))
  |                continue
  |            while line:
  |                if line[-1].strip() and length + len(self.placeholder) <= width:
  |                    line.append(self.placeholder)
  |                    lines.append(indent + ''.join(line))
  |                    break
  |                length -= len(line[-1])
  |                del line[-1]
  |            else:
  |                if lines:
  |                    before = lines[-1].rstrip()
  |                    if len(before) + len(self.placeholder) <= self.width:
  |                        lines[-1] = before + self.placeholder
  |                        break
  |                lines.append(indent + self.placeholder.lstrip())
  |            break
  |        return lines
  |    def fill(self, text):
  |        return '\n'.join(self.wrap(text))
  |
  |def wrap(text, width=70, **kwargs):
  |    return TextWrapper(width=width, **kwargs).wrap(text)
  |
  |def fill(text, width=70, **kwargs):
  |    return TextWrapper(width=width, **kwargs).fill(text)
  |
  |def shorten(text, width, **kwargs):
  |    return TextWrapper(width=width, max_lines=1, **kwargs).fill(' '.join(text.strip().split()))
  |
  |def dedent(text):
  |    lines = text.split('\n')
  |    margin = None
  |    for i, line in enumerate(lines):
  |        rest = line.lstrip(' \t')
  |        if not rest:
  |            lines[i] = ''
  |            continue
  |        indent = line[:len(line) - len(rest)]
  |        if margin is None:
  |            margin = indent
  |        elif indent.startswith(margin):
  |            pass
  |        elif margin.startswith(indent):
  |            margin = indent
  |        else:
  |            for j, (x, y) in enumerate(zip(margin, indent)):
  |                if x != y:
  |                    margin = margin[:j]
  |                    break
  |    if margin:
  |        lines = [line[len(margin):] if line else line for line in lines]
  |    return '\n'.join(lines)
  |
  |def indent(text, prefix, predicate=None):
  |    if predicate is None:
  |        predicate = lambda line: line.strip()
  |    return ''.join(prefix + line if predicate(line) else line
  |                   for line in text.splitlines(True))"#

/-- Records as texts. -/
def records : String := r#"
  |from _contents import quoted as _quoted
  |_infinity = float('inf')
  |
  |class JSONDecodeError(ValueError):
  |    def __init__(self, msg, doc, pos):
  |        lineno = doc.count('\n', 0, pos) + 1
  |        colno = pos - doc.rfind('\n', 0, pos)
  |        super().__init__('%s: line %d column %d (char %d)' % (msg, lineno, colno, pos))
  |        self.msg = msg
  |        self.doc = doc
  |        self.pos = pos
  |        self.lineno = lineno
  |        self.colno = colno
  |
  |def _float(o, allow):
  |    if o != o:
  |        text = 'NaN'
  |    elif o == _infinity:
  |        text = 'Infinity'
  |    elif o == -_infinity:
  |        text = '-Infinity'
  |    else:
  |        return float.__repr__(o)
  |    if not allow:
  |        raise ValueError('Out of range float values are not JSON compliant: ' + repr(o))
  |    return text
  |
  |class JSONEncoder:
  |    item_separator = ', '
  |    key_separator = ': '
  |    def __init__(self, *, skipkeys=False, ensure_ascii=True, check_circular=True,
  |                 allow_nan=True, sort_keys=False, indent=None, separators=None, default=None):
  |        self.skipkeys = skipkeys
  |        self.ensure_ascii = ensure_ascii
  |        self.allow_nan = allow_nan
  |        self.sort_keys = sort_keys
  |        if isinstance(indent, int) and not isinstance(indent, bool):
  |            indent = ' ' * indent
  |        self.indent = indent
  |        if separators is not None:
  |            self.item_separator, self.key_separator = separators
  |        elif indent is not None:
  |            self.item_separator = ','
  |        if default is not None:
  |            self.default = default
  |    def default(self, o):
  |        raise TypeError('Object of type %s is not JSON serializable' % type(o).__name__)
  |    def encode(self, o):
  |        return ''.join(self.iterencode(o))
  |    def iterencode(self, o, _one_shot=False):
  |        parts = []
  |        self._add(parts, o, 0, [])
  |        return iter(parts)
  |    def _key(self, key):
  |        if isinstance(key, str):
  |            return key
  |        if key is True:
  |            return 'true'
  |        if key is False:
  |            return 'false'
  |        if key is None:
  |            return 'null'
  |        if isinstance(key, float):
  |            return _float(key, self.allow_nan)
  |        if isinstance(key, int):
  |            return int.__repr__(key)
  |        if self.skipkeys:
  |            return None
  |        raise TypeError('keys must be str, int, float, bool or None, not '
  |                        + type(key).__name__)
  |    def _add(self, parts, o, depth, around):
  |        if isinstance(o, str):
  |            parts.append(_quoted(o, self.ensure_ascii))
  |        elif o is None:
  |            parts.append('null')
  |        elif o is True:
  |            parts.append('true')
  |        elif o is False:
  |            parts.append('false')
  |        elif isinstance(o, int):
  |            parts.append(int.__repr__(o))
  |        elif isinstance(o, float):
  |            parts.append(_float(o, self.allow_nan))
  |        elif isinstance(o, (list, tuple)):
  |            self._list(parts, o, depth, around)
  |        elif isinstance(o, dict):
  |            self._dict(parts, o, depth, around)
  |        else:
  |            self._enter(o, around)
  |            self._add(parts, self.default(o), depth, around)
  |            around.pop()
  |    def _enter(self, o, around):
  |        for other in around:
  |            if other is o:
  |                raise ValueError('Circular reference detected')
  |        around.append(o)
  |    def _list(self, parts, o, depth, around):
  |        if not o:
  |            parts.append('[]')
  |            return
  |        self._enter(o, around)
  |        parts.append('[')
  |        separator = self.item_separator
  |        if self.indent is not None:
  |            newline = '\n' + self.indent * (depth + 1)
  |            separator += newline
  |            parts.append(newline)
  |        first = True
  |        for value in o:
  |            if not first:
  |                parts.append(separator)
  |            first = False
  |            self._add(parts, value, depth + 1, around)
  |        if self.indent is not None:
  |            parts.append('\n' + self.indent * depth)
  |        parts.append(']')
  |        around.pop()
  |    def _dict(self, parts, o, depth, around):
  |        if not o:
  |            parts.append(chr(123) + chr(125))
  |            return
  |        self._enter(o, around)
  |        parts.append(chr(123))
  |        separator = self.item_separator
  |        if self.indent is not None:
  |            newline = '\n' + self.indent * (depth + 1)
  |            separator += newline
  |            parts.append(newline)
  |        first = True
  |        items = o.items()
  |        if self.sort_keys:
  |            items = sorted(items)
  |        for key, value in items:
  |            key = self._key(key)
  |            if key is None:
  |                continue
  |            if not first:
  |                parts.append(separator)
  |            first = False
  |            parts.append(_quoted(key, self.ensure_ascii))
  |            parts.append(self.key_separator)
  |            self._add(parts, value, depth + 1, around)
  |        if self.indent is not None:
  |            parts.append('\n' + self.indent * depth)
  |        parts.append(chr(125))
  |        around.pop()
  |
  |class JSONDecoder:
  |    def __init__(self, *, object_hook=None, parse_float=None, parse_int=None,
  |                 parse_constant=None, strict=True, object_pairs_hook=None):
  |        self.object_hook = object_hook
  |        self.object_pairs_hook = object_pairs_hook
  |        self.parse_float = parse_float or float
  |        self.parse_int = parse_int or int
  |        self.parse_constant = parse_constant or float
  |        self.strict = strict
  |    def decode(self, s):
  |        obj, end = self.raw_decode(s, self._blank(s, 0))
  |        end = self._blank(s, end)
  |        if end != len(s):
  |            raise JSONDecodeError('Extra data', s, end)
  |        return obj
  |    def raw_decode(self, s, idx=0):
  |        return self._value(s, idx)
  |    def _blank(self, s, i):
  |        n = len(s)
  |        while i < n and s[i] in ' \t\n\r':
  |            i += 1
  |        return i
  |    def _value(self, s, i):
  |        c = s[i:i + 1]
  |        if c == '"':
  |            return self._text(s, i + 1)
  |        if c == chr(123):
  |            return self._object(s, i + 1)
  |        if c == '[':
  |            return self._array(s, i + 1)
  |        for word, value in (('null', None), ('true', True), ('false', False)):
  |            if s.startswith(word, i):
  |                return value, i + len(word)
  |        for word in ('NaN', 'Infinity', '-Infinity'):
  |            if s.startswith(word, i):
  |                return self.parse_constant(word), i + len(word)
  |        return self._number(s, i)
  |    def _digits(self, s, i):
  |        while s[i:i + 1] in tuple('0123456789'):
  |            i += 1
  |        return i
  |    def _number(self, s, i):
  |        j = i
  |        if s[j:j + 1] == '-':
  |            j += 1
  |        if s[j:j + 1] == '0':
  |            k = j + 1
  |        else:
  |            k = self._digits(s, j)
  |        if k == j:
  |            raise JSONDecodeError('Expecting value', s, i)
  |        end = k
  |        if s[end:end + 1] == '.':
  |            after = self._digits(s, end + 1)
  |            if after > end + 1:
  |                end = after
  |        if s[end:end + 1] in ('e', 'E'):
  |            after = end + 1
  |            if s[after:after + 1] in ('+', '-'):
  |                after += 1
  |            last = self._digits(s, after)
  |            if last > after:
  |                end = last
  |        if end == k:
  |            return self.parse_int(s[i:end]), end
  |        return self.parse_float(s[i:end]), end
  |    def _text(self, s, i):
  |        begin = i - 1
  |        parts = []
  |        n = len(s)
  |        while True:
  |            start = i
  |            while i < n and s[i] != '"' and s[i] != '\\' and (s[i] >= ' ' or not self.strict):
  |                i += 1
  |            parts.append(s[start:i])
  |            if i >= n:
  |                raise JSONDecodeError('Unterminated string starting at', s, begin)
  |            c = s[i]
  |            if c == '"':
  |                return ''.join(parts), i + 1
  |            if c != '\\':
  |                raise JSONDecodeError('Invalid control character at', s, i)
  |            c = s[i + 1:i + 2]
  |            if not c:
  |                raise JSONDecodeError('Unterminated string starting at', s, begin)
  |            if c == 'u':
  |                code = self._code(s, i + 1)
  |                i += 6
  |                if 0xd800 <= code <= 0xdbff and s[i:i + 2] == '\\u':
  |                    low = self._code(s, i + 1)
  |                    if 0xdc00 <= low <= 0xdfff:
  |                        code = 0x10000 + (code - 0xd800 << 10 | low - 0xdc00)
  |                        i += 6
  |                parts.append(chr(code))
  |                continue
  |            simple = dict(zip('"\\/bfnrt', '"\\/\b\f\n\r\t'))
  |            if c not in simple:
  |                raise JSONDecodeError('Invalid \\escape', s, i)
  |            parts.append(simple[c])
  |            i += 2
  |    def _code(self, s, i):
  |        digits = s[i + 1:i + 5]
  |        if len(digits) == 4 and all(c in '0123456789abcdefABCDEF' for c in digits):
  |            return int(digits, 16)
  |        raise JSONDecodeError('Invalid \\uXXXX escape', s, i)
  |    def _array(self, s, i):
  |        found = []
  |        i = self._blank(s, i)
  |        if s[i:i + 1] == ']':
  |            return found, i + 1
  |        while True:
  |            value, i = self._value(s, i)
  |            found.append(value)
  |            i = self._blank(s, i)
  |            c = s[i:i + 1]
  |            if c == ']':
  |                return found, i + 1
  |            if c != ',':
  |                raise JSONDecodeError("Expecting ',' delimiter", s, i)
  |            i = self._blank(s, i + 1)
  |    def _object(self, s, i):
  |        pairs = []
  |        i = self._blank(s, i)
  |        if s[i:i + 1] == chr(125):
  |            return self._made(pairs), i + 1
  |        if s[i:i + 1] != '"':
  |            raise JSONDecodeError('Expecting property name enclosed in double quotes', s, i)
  |        while True:
  |            key, i = self._text(s, i + 1)
  |            i = self._blank(s, i)
  |            if s[i:i + 1] != ':':
  |                raise JSONDecodeError("Expecting ':' delimiter", s, i)
  |            i = self._blank(s, i + 1)
  |            value, i = self._value(s, i)
  |            pairs.append((key, value))
  |            i = self._blank(s, i)
  |            c = s[i:i + 1]
  |            if c == chr(125):
  |                return self._made(pairs), i + 1
  |            if c != ',':
  |                raise JSONDecodeError("Expecting ',' delimiter", s, i)
  |            i = self._blank(s, i + 1)
  |            if s[i:i + 1] != '"':
  |                raise JSONDecodeError('Expecting property name enclosed in double quotes', s, i)
  |    def _made(self, pairs):
  |        if self.object_pairs_hook is not None:
  |            return self.object_pairs_hook(pairs)
  |        found = dict(pairs)
  |        if self.object_hook is not None:
  |            found = self.object_hook(found)
  |        return found
  |
  |def dumps(obj, *, skipkeys=False, ensure_ascii=True, check_circular=True, allow_nan=True,
  |          cls=None, indent=None, separators=None, default=None, sort_keys=False, **kw):
  |    return (cls or JSONEncoder)(skipkeys=skipkeys, ensure_ascii=ensure_ascii,
  |                                check_circular=check_circular, allow_nan=allow_nan,
  |                                indent=indent, separators=separators, default=default,
  |                                sort_keys=sort_keys, **kw).encode(obj)
  |
  |def dump(obj, fp, **kw):
  |    fp.write(dumps(obj, **kw))
  |
  |def loads(s, *, cls=None, object_hook=None, parse_float=None, parse_int=None,
  |          parse_constant=None, object_pairs_hook=None, **kw):
  |    if isinstance(s, str):
  |        if s.startswith('\ufeff'):
  |            raise JSONDecodeError('Unexpected UTF-8 BOM (decode using utf-8-sig)', s, 0)
  |    elif isinstance(s, (bytes, bytearray)):
  |        s = s.decode('utf-8-sig')
  |    else:
  |        raise TypeError('the JSON object must be str, bytes or bytearray, not '
  |                        + type(s).__name__)
  |    return (cls or JSONDecoder)(object_hook=object_hook, parse_float=parse_float,
  |                                parse_int=parse_int, parse_constant=parse_constant,
  |                                object_pairs_hook=object_pairs_hook, **kw).decode(s)
  |
  |def load(fp, **kw):
  |    return loads(fp.read(), **kw)"#

/-- Rows of fields between marks. -/
def tables : String := r#"
  |import io
  |import re
  |QUOTE_MINIMAL, QUOTE_ALL, QUOTE_NONNUMERIC, QUOTE_NONE = 0, 1, 2, 3
  |QUOTE_STRINGS, QUOTE_NOTNULL = 4, 5
  |
  |class Error(Exception):
  |    pass
  |
  |class Dialect:
  |    delimiter = ','
  |    quotechar = '"'
  |    escapechar = None
  |    doublequote = True
  |    skipinitialspace = False
  |    lineterminator = '\r\n'
  |    quoting = QUOTE_MINIMAL
  |    strict = False
  |
  |class excel(Dialect):
  |    pass
  |
  |class excel_tab(excel):
  |    delimiter = '\t'
  |
  |class unix_dialect(Dialect):
  |    lineterminator = '\n'
  |    quoting = QUOTE_ALL
  |
  |_dialects = dict([('excel', excel), ('excel-tab', excel_tab), ('unix', unix_dialect)])
  |_names = ('delimiter', 'quotechar', 'escapechar', 'doublequote', 'skipinitialspace',
  |          'lineterminator', 'quoting', 'strict')
  |
  |class _Made:
  |    def __init__(self, dialect, given):
  |        if isinstance(dialect, str):
  |            if dialect not in _dialects:
  |                raise Error('unknown dialect')
  |            dialect = _dialects[dialect]
  |        for name in given:
  |            if name not in _names:
  |                raise TypeError("'%s' is an invalid keyword argument for this function" % name)
  |        for name in _names:
  |            value = given.get(name, getattr(dialect, name, getattr(Dialect, name)))
  |            setattr(self, name, value)
  |        if not isinstance(self.delimiter, str) or len(self.delimiter) != 1:
  |            raise TypeError('"delimiter" must be a 1-character string')
  |        if 'quotechar' in given and self.quotechar is None and 'quoting' not in given:
  |            self.quoting = QUOTE_NONE
  |        if self.quoting != QUOTE_NONE and not self.quotechar:
  |            raise TypeError('quotechar must be set if quoting enabled')
  |
  |def register_dialect(name, dialect=excel, **fmtparams):
  |    _dialects[name] = _Made(dialect, fmtparams)
  |
  |def unregister_dialect(name):
  |    if name not in _dialects:
  |        raise Error('unknown dialect')
  |    del _dialects[name]
  |
  |def get_dialect(name):
  |    if name not in _dialects:
  |        raise Error('unknown dialect')
  |    return _Made(name, dict())
  |
  |def list_dialects():
  |    return list(_dialects)
  |
  |_limit = 131072
  |
  |def field_size_limit(new_limit=None):
  |    global _limit
  |    old = _limit
  |    if new_limit is not None:
  |        _limit = new_limit
  |    return old
  |
  |class _Reader:
  |    def __init__(self, iterable, dialect, given):
  |        self.dialect = _Made(dialect, given)
  |        self._source = iter(iterable)
  |        self.line_num = 0
  |    def __iter__(self):
  |        return self
  |    def __next__(self):
  |        self._fields = []
  |        self._field = []
  |        self._numeric = False
  |        self._state = 'start'
  |        while True:
  |            try:
  |                line = next(self._source)
  |            except StopIteration:
  |                if self._state == 'quoted' or self._field and self._state == 'escaped':
  |                    if self.dialect.strict:
  |                        raise Error('unexpected end of data')
  |                    self._save()
  |                    return self._fields
  |                if self._state not in ('start', 'ended'):
  |                    if self._state == 'escaped':
  |                        self._field.append('\n')
  |                    self._save()
  |                    return self._fields
  |                raise
  |            if not isinstance(line, str):
  |                raise Error('iterator should return strings, not %s (the file should be '
  |                            'opened in text mode)' % type(line).__name__)
  |            self.line_num += 1
  |            for c in line:
  |                self._take(c)
  |            self._take('')
  |            if self._state in ('start', 'done'):
  |                return self._fields
  |    def _save(self):
  |        text = ''.join(self._field)
  |        self._field = []
  |        if self._numeric:
  |            self._numeric = False
  |            text = float(text)
  |        self._fields.append(text)
  |    def _take(self, c):
  |        d = self.dialect
  |        state = self._state
  |        end = c in ('\n', '\r', '')
  |        if state == 'done':
  |            if not end:
  |                raise Error('new-line character seen in unquoted field - do you need to open '
  |                            'the file with newline=\'\'?')
  |            return
  |        if state == 'start':
  |            if c == '':
  |                return
  |            if end:
  |                self._state = 'done'
  |                return
  |            state = 'field'
  |        if state == 'field':
  |            if end:
  |                self._save()
  |                self._state = 'start' if c == '' else 'done'
  |            elif c == d.quotechar and d.quoting != QUOTE_NONE:
  |                self._state = 'quoted'
  |            elif c == d.escapechar:
  |                self._state = 'escaped'
  |            elif c == ' ' and d.skipinitialspace:
  |                self._state = 'field'
  |            elif c == d.delimiter:
  |                self._save()
  |                self._state = 'field'
  |            else:
  |                if d.quoting == QUOTE_NONNUMERIC:
  |                    self._numeric = True
  |                self._field.append(c)
  |                self._state = 'plain'
  |        elif state == 'escaped':
  |            self._field.append(c or '\n')
  |            self._state = 'plain'
  |        elif state == 'plain':
  |            if end:
  |                self._save()
  |                self._state = 'start' if c == '' else 'done'
  |            elif c == d.escapechar:
  |                self._state = 'escaped'
  |            elif c == d.delimiter:
  |                self._save()
  |                self._state = 'field'
  |            else:
  |                self._field.append(c)
  |        elif state == 'quoted':
  |            if c == '':
  |                return
  |            if c == d.escapechar:
  |                self._state = 'quotedescaped'
  |            elif c == d.quotechar and d.quoting != QUOTE_NONE:
  |                self._state = 'quotedquote' if d.doublequote else 'plain'
  |            else:
  |                self._field.append(c)
  |        elif state == 'quotedescaped':
  |            self._field.append(c or '\n')
  |            self._state = 'quoted'
  |        elif state == 'quotedquote':
  |            if d.quoting != QUOTE_NONE and c == d.quotechar:
  |                self._field.append(c)
  |                self._state = 'quoted'
  |            elif c == d.delimiter:
  |                self._save()
  |                self._state = 'field'
  |            elif end:
  |                self._save()
  |                self._state = 'start' if c == '' else 'done'
  |            elif not d.strict:
  |                self._field.append(c)
  |                self._state = 'plain'
  |            else:
  |                raise Error("'%s' expected after '%s'" % (d.delimiter, d.quotechar))
  |
  |def reader(csvfile, dialect='excel', **fmtparams):
  |    return _Reader(csvfile, dialect, fmtparams)
  |
  |class _Writer:
  |    def __init__(self, target, dialect, given):
  |        self.dialect = _Made(dialect, given)
  |        self._write = target.write
  |    def writerow(self, row):
  |        try:
  |            values = list(row)
  |        except TypeError:
  |            raise Error('iterable expected, not %s' % type(row).__name__) from None
  |        d = self.dialect
  |        parts = [self._field(value, len(values) == 1) for value in values]
  |        return self._write(d.delimiter.join(parts) + d.lineterminator)
  |    def writerows(self, rows):
  |        for row in rows:
  |            self.writerow(row)
  |    def _field(self, value, alone):
  |        d = self.dialect
  |        numeric = isinstance(value, (int, float))
  |        if value is None:
  |            text = ''
  |        elif isinstance(value, str):
  |            text = value
  |        else:
  |            text = str(value)
  |        quoted = d.quoting == QUOTE_ALL or d.quoting == QUOTE_NONNUMERIC and not numeric
  |        if d.quoting == QUOTE_STRINGS and isinstance(value, str):
  |            quoted = True
  |        if d.quoting == QUOTE_NOTNULL and value is not None:
  |            quoted = True
  |        parts = []
  |        for c in text:
  |            if c == d.quotechar and d.quoting != QUOTE_NONE:
  |                if d.doublequote:
  |                    parts.append(c)
  |                elif d.escapechar is None:
  |                    raise Error('need to escape, but no escapechar set')
  |                else:
  |                    parts.append(d.escapechar)
  |                quoted = quoted or d.doublequote
  |            elif c == d.escapechar:
  |                parts.append(c)
  |            elif c in (d.delimiter, '\n', '\r', d.quotechar) or c in d.lineterminator:
  |                if d.quoting == QUOTE_NONE:
  |                    if d.escapechar is None:
  |                        raise Error('need to escape, but no escapechar set')
  |                    parts.append(d.escapechar)
  |                else:
  |                    quoted = True
  |            parts.append(c)
  |        if not text and alone:
  |            if d.quoting == QUOTE_NONE:
  |                raise Error('single empty field record must be quoted')
  |            quoted = True
  |        text = ''.join(parts)
  |        if quoted:
  |            return d.quotechar + text + d.quotechar
  |        return text
  |
  |def writer(csvfile, dialect='excel', **fmtparams):
  |    return _Writer(csvfile, dialect, fmtparams)
  |
  |class DictReader:
  |    def __init__(self, f, fieldnames=None, restkey=None, restval=None, dialect='excel',
  |                 *args, **kwds):
  |        self._fieldnames = fieldnames
  |        self.restkey = restkey
  |        self.restval = restval
  |        self.reader = reader(f, dialect, *args, **kwds)
  |        self.dialect = dialect
  |        self.line_num = 0
  |    def __iter__(self):
  |        return self
  |    @property
  |    def fieldnames(self):
  |        if self._fieldnames is None:
  |            try:
  |                self._fieldnames = next(self.reader)
  |            except StopIteration:
  |                pass
  |        self.line_num = self.reader.line_num
  |        return self._fieldnames
  |    @fieldnames.setter
  |    def fieldnames(self, value):
  |        self._fieldnames = value
  |    def __next__(self):
  |        if self.line_num == 0:
  |            self.fieldnames
  |        row = next(self.reader)
  |        self.line_num = self.reader.line_num
  |        while row == []:
  |            row = next(self.reader)
  |        names = self.fieldnames
  |        d = dict(zip(names, row))
  |        if len(names) < len(row):
  |            d[self.restkey] = row[len(names):]
  |        elif len(names) > len(row):
  |            for key in names[len(row):]:
  |                d[key] = self.restval
  |        return d
  |
  |class DictWriter:
  |    def __init__(self, f, fieldnames, restval='', extrasaction='raise', dialect='excel',
  |                 *args, **kwds):
  |        self.fieldnames = fieldnames
  |        self.restval = restval
  |        if extrasaction.lower() not in ('raise', 'ignore'):
  |            raise ValueError("extrasaction (%s) must be 'raise' or 'ignore'" % extrasaction)
  |        self.extrasaction = extrasaction.lower()
  |        self.writer = writer(f, dialect, *args, **kwds)
  |    def writeheader(self):
  |        return self.writerow(dict(zip(self.fieldnames, self.fieldnames)))
  |    def _row(self, rowdict):
  |        if self.extrasaction == 'raise':
  |            wrong = [key for key in rowdict if key not in self.fieldnames]
  |            if wrong:
  |                raise ValueError('dict contains fields not in fieldnames: '
  |                                 + ', '.join([repr(x) for x in wrong]))
  |        return [rowdict.get(key, self.restval) for key in self.fieldnames]
  |    def writerow(self, rowdict):
  |        return self.writer.writerow(self._row(rowdict))
  |    def writerows(self, rowdicts):
  |        return self.writer.writerows(map(self._row, rowdicts))
  |
  |class Sniffer:
  |    def sniff(self, sample, delimiters=None):
  |        best = None
  |        for c in delimiters or ',\t;:| ':
  |            counts = [line.count(c) for line in sample.splitlines() if line]
  |            if counts and counts[0] and all(n == counts[0] for n in counts):
  |                best = c
  |                break
  |        if best is None:
  |            raise Error('Could not determine delimiter')
  |        class dialect(Dialect):
  |            lineterminator = '\r\n'
  |            quoting = QUOTE_MINIMAL
  |            delimiter = best
  |        return dialect
  |    def has_header(self, sample):
  |        rows = list(reader(io.StringIO(sample)))
  |        if len(rows) < 2:
  |            return False
  |        return any(not x.isdigit() and y.isdigit() for x, y in zip(rows[0], rows[1]))"#

/-- Differences between sequences. -/
def differences : String := r#"
  |import re
  |from collections import namedtuple as _namedtuple
  |from heapq import nlargest as _nlargest
  |
  |Match = _namedtuple('Match', 'a b size')
  |
  |def _ratio(matches, length):
  |    return 2.0 * matches / length if length else 1.0
  |
  |class SequenceMatcher:
  |    def __init__(self, isjunk=None, a='', b='', autojunk=True):
  |        self.isjunk = isjunk
  |        self.a = self.b = None
  |        self.autojunk = autojunk
  |        self.set_seqs(a, b)
  |    def set_seqs(self, a, b):
  |        self.set_seq1(a)
  |        self.set_seq2(b)
  |    def set_seq1(self, a):
  |        if a is self.a:
  |            return
  |        self.a = a
  |        self.matching_blocks = self.opcodes = None
  |    def set_seq2(self, b):
  |        if b is self.b:
  |            return
  |        self.b = b
  |        self.matching_blocks = self.opcodes = None
  |        self.fullbcount = None
  |        self._chain_b()
  |    def _chain_b(self):
  |        b = self.b
  |        self.b2j = b2j = dict()
  |        for i, elt in enumerate(b):
  |            b2j.setdefault(elt, []).append(i)
  |        self.bjunk = junk = set()
  |        if self.isjunk:
  |            for elt in list(b2j):
  |                if self.isjunk(elt):
  |                    junk.add(elt)
  |                    del b2j[elt]
  |        self.bpopular = popular = set()
  |        n = len(b)
  |        if self.autojunk and n >= 200:
  |            most = n // 100 + 1
  |            for elt, places in list(b2j.items()):
  |                if len(places) > most:
  |                    popular.add(elt)
  |                    del b2j[elt]
  |    def find_longest_match(self, alo=0, ahi=None, blo=0, bhi=None):
  |        a, b, b2j, junk = self.a, self.b, self.b2j, self.bjunk
  |        if ahi is None:
  |            ahi = len(a)
  |        if bhi is None:
  |            bhi = len(b)
  |        besti, bestj, bestsize = alo, blo, 0
  |        j2len = dict()
  |        for i in range(alo, ahi):
  |            newj2len = dict()
  |            for j in b2j.get(a[i], ()):
  |                if j < blo:
  |                    continue
  |                if j >= bhi:
  |                    break
  |                k = newj2len[j] = j2len.get(j - 1, 0) + 1
  |                if k > bestsize:
  |                    besti, bestj, bestsize = i - k + 1, j - k + 1, k
  |            j2len = newj2len
  |        while besti > alo and bestj > blo and b[bestj - 1] not in junk \
  |                and a[besti - 1] == b[bestj - 1]:
  |            besti, bestj, bestsize = besti - 1, bestj - 1, bestsize + 1
  |        while besti + bestsize < ahi and bestj + bestsize < bhi \
  |                and b[bestj + bestsize] not in junk \
  |                and a[besti + bestsize] == b[bestj + bestsize]:
  |            bestsize += 1
  |        while besti > alo and bestj > blo and b[bestj - 1] in junk \
  |                and a[besti - 1] == b[bestj - 1]:
  |            besti, bestj, bestsize = besti - 1, bestj - 1, bestsize + 1
  |        while besti + bestsize < ahi and bestj + bestsize < bhi \
  |                and b[bestj + bestsize] in junk \
  |                and a[besti + bestsize] == b[bestj + bestsize]:
  |            bestsize += 1
  |        return Match(besti, bestj, bestsize)
  |    def get_matching_blocks(self):
  |        if self.matching_blocks is not None:
  |            return self.matching_blocks
  |        la, lb = len(self.a), len(self.b)
  |        queue = [(0, la, 0, lb)]
  |        found = []
  |        while queue:
  |            alo, ahi, blo, bhi = queue.pop()
  |            i, j, k = x = self.find_longest_match(alo, ahi, blo, bhi)
  |            if k:
  |                found.append((i, j, k))
  |                if alo < i and blo < j:
  |                    queue.append((alo, i, blo, j))
  |                if i + k < ahi and j + k < bhi:
  |                    queue.append((i + k, ahi, j + k, bhi))
  |        found.sort()
  |        i1 = j1 = k1 = 0
  |        joined = []
  |        for i2, j2, k2 in found:
  |            if i1 + k1 == i2 and j1 + k1 == j2:
  |                k1 += k2
  |            else:
  |                if k1:
  |                    joined.append((i1, j1, k1))
  |                i1, j1, k1 = i2, j2, k2
  |        if k1:
  |            joined.append((i1, j1, k1))
  |        joined.append((la, lb, 0))
  |        self.matching_blocks = [Match(*entry) for entry in joined]
  |        return self.matching_blocks
  |    def get_opcodes(self):
  |        if self.opcodes is not None:
  |            return self.opcodes
  |        i = j = 0
  |        self.opcodes = answer = []
  |        for ai, bj, size in self.get_matching_blocks():
  |            tag = ''
  |            if i < ai and j < bj:
  |                tag = 'replace'
  |            elif i < ai:
  |                tag = 'delete'
  |            elif j < bj:
  |                tag = 'insert'
  |            if tag:
  |                answer.append((tag, i, ai, j, bj))
  |            i, j = ai + size, bj + size
  |            if size:
  |                answer.append(('equal', ai, i, bj, j))
  |        return answer
  |    def get_grouped_opcodes(self, n=3):
  |        codes = list(self.get_opcodes())
  |        if not codes:
  |            codes = [('equal', 0, 1, 0, 1)]
  |        if codes[0][0] == 'equal':
  |            tag, i1, i2, j1, j2 = codes[0]
  |            codes[0] = tag, max(i1, i2 - n), i2, max(j1, j2 - n), j2
  |        if codes[-1][0] == 'equal':
  |            tag, i1, i2, j1, j2 = codes[-1]
  |            codes[-1] = tag, i1, min(i2, i1 + n), j1, min(j2, j1 + n)
  |        nn = n + n
  |        group = []
  |        for tag, i1, i2, j1, j2 in codes:
  |            if tag == 'equal' and i2 - i1 > nn:
  |                group.append((tag, i1, min(i2, i1 + n), j1, min(j2, j1 + n)))
  |                yield group
  |                group = []
  |                i1, j1 = max(i1, i2 - n), max(j1, j2 - n)
  |            group.append((tag, i1, i2, j1, j2))
  |        if group and not (len(group) == 1 and group[0][0] == 'equal'):
  |            yield group
  |    def ratio(self):
  |        matches = sum(triple[-1] for triple in self.get_matching_blocks())
  |        return _ratio(matches, len(self.a) + len(self.b))
  |    def quick_ratio(self):
  |        if self.fullbcount is None:
  |            self.fullbcount = counts = dict()
  |            for elt in self.b:
  |                counts[elt] = counts.get(elt, 0) + 1
  |        avail = dict()
  |        matches = 0
  |        for elt in self.a:
  |            n = avail[elt] if elt in avail else self.fullbcount.get(elt, 0)
  |            avail[elt] = n - 1
  |            if n > 0:
  |                matches += 1
  |        return _ratio(matches, len(self.a) + len(self.b))
  |    def real_quick_ratio(self):
  |        la, lb = len(self.a), len(self.b)
  |        return _ratio(min(la, lb), la + lb)
  |
  |def get_close_matches(word, possibilities, n=3, cutoff=0.6):
  |    if not n > 0:
  |        raise ValueError('n must be > 0: %r' % (n,))
  |    if not 0.0 <= cutoff <= 1.0:
  |        raise ValueError('cutoff must be in [0.0, 1.0]: %r' % (cutoff,))
  |    result = []
  |    s = SequenceMatcher()
  |    s.set_seq2(word)
  |    for x in possibilities:
  |        s.set_seq1(x)
  |        if s.real_quick_ratio() >= cutoff and s.quick_ratio() >= cutoff \
  |                and s.ratio() >= cutoff:
  |            result.append((s.ratio(), x))
  |    return [x for score, x in _nlargest(n, result)]
  |
  |def _keep(line, tags):
  |    return ''.join(' ' if tag == ' ' and c.isspace() and c != '\t' else
  |                   c if tag == ' ' and c == '\t' else tag for c, tag in zip(line, tags))
  |
  |class Differ:
  |    def __init__(self, linejunk=None, charjunk=None):
  |        self.linejunk = linejunk
  |        self.charjunk = charjunk
  |    def compare(self, a, b):
  |        cruncher = SequenceMatcher(self.linejunk, a, b)
  |        for tag, alo, ahi, blo, bhi in cruncher.get_opcodes():
  |            if tag == 'replace':
  |                yield from self._fancy_replace(a, alo, ahi, b, blo, bhi)
  |            elif tag == 'delete':
  |                yield from self._dump('-', a, alo, ahi)
  |            elif tag == 'insert':
  |                yield from self._dump('+', b, blo, bhi)
  |            else:
  |                yield from self._dump(' ', a, alo, ahi)
  |    def _dump(self, tag, x, lo, hi):
  |        for i in range(lo, hi):
  |            yield '%s %s' % (tag, x[i])
  |    def _plain_replace(self, a, alo, ahi, b, blo, bhi):
  |        if bhi - blo < ahi - alo:
  |            yield from self._dump('+', b, blo, bhi)
  |            yield from self._dump('-', a, alo, ahi)
  |        else:
  |            yield from self._dump('-', a, alo, ahi)
  |            yield from self._dump('+', b, blo, bhi)
  |    def _fancy_replace(self, a, alo, ahi, b, blo, bhi):
  |        best_ratio, cutoff = 0.74, 0.75
  |        cruncher = SequenceMatcher(self.charjunk)
  |        eqi = eqj = None
  |        best_i = best_j = None
  |        for j in range(blo, bhi):
  |            bj = b[j]
  |            cruncher.set_seq2(bj)
  |            for i in range(alo, ahi):
  |                ai = a[i]
  |                if ai == bj:
  |                    if eqi is None:
  |                        eqi, eqj = i, j
  |                    continue
  |                cruncher.set_seq1(ai)
  |                if cruncher.real_quick_ratio() > best_ratio \
  |                        and cruncher.quick_ratio() > best_ratio \
  |                        and cruncher.ratio() > best_ratio:
  |                    best_ratio, best_i, best_j = cruncher.ratio(), i, j
  |        if best_ratio < cutoff:
  |            if eqi is None:
  |                yield from self._plain_replace(a, alo, ahi, b, blo, bhi)
  |                return
  |            best_i, best_j, best_ratio = eqi, eqj, 1.0
  |        else:
  |            eqi = None
  |        yield from self._fancy_helper(a, alo, best_i, b, blo, best_j)
  |        aelt, belt = a[best_i], b[best_j]
  |        if eqi is None:
  |            atags = btags = ''
  |            cruncher.set_seqs(aelt, belt)
  |            for tag, ai1, ai2, bj1, bj2 in cruncher.get_opcodes():
  |                la, lb = ai2 - ai1, bj2 - bj1
  |                if tag == 'replace':
  |                    atags += '^' * la
  |                    btags += '^' * lb
  |                elif tag == 'delete':
  |                    atags += '-' * la
  |                elif tag == 'insert':
  |                    btags += '+' * lb
  |                else:
  |                    atags += ' ' * la
  |                    btags += ' ' * lb
  |            yield from self._qformat(aelt, belt, atags, btags)
  |        else:
  |            yield '  ' + aelt
  |        yield from self._fancy_helper(a, best_i + 1, ahi, b, best_j + 1, bhi)
  |    def _fancy_helper(self, a, alo, ahi, b, blo, bhi):
  |        if alo < ahi:
  |            if blo < bhi:
  |                yield from self._fancy_replace(a, alo, ahi, b, blo, bhi)
  |            else:
  |                yield from self._dump('-', a, alo, ahi)
  |        elif blo < bhi:
  |            yield from self._dump('+', b, blo, bhi)
  |    def _qformat(self, aline, bline, atags, btags):
  |        atags = _keep(aline, atags).rstrip()
  |        btags = _keep(bline, btags).rstrip()
  |        yield '- ' + aline
  |        if atags:
  |            yield '? %s\n' % atags
  |        yield '+ ' + bline
  |        if btags:
  |            yield '? %s\n' % btags
  |
  |def IS_LINE_JUNK(line, pat=re.compile(r'\s*(?:#\s*)?$').match):
  |    return pat(line) is not None
  |
  |def IS_CHARACTER_JUNK(ch, ws=' \t'):
  |    return ch in ws
  |
  |def _range_unified(start, stop):
  |    beginning = start + 1
  |    length = stop - start
  |    if length == 1:
  |        return '%d' % beginning
  |    if not length:
  |        beginning -= 1
  |    return '%d,%d' % (beginning, length)
  |
  |def _check(a, b, *args):
  |    if a and not isinstance(a[0], str):
  |        raise TypeError('lines to compare must be str, not %s (%r)'
  |                        % (type(a[0]).__name__, a[0]))
  |    if b and not isinstance(b[0], str):
  |        raise TypeError('lines to compare must be str, not %s (%r)'
  |                        % (type(b[0]).__name__, b[0]))
  |    for arg in args:
  |        if not isinstance(arg, str):
  |            raise TypeError('all arguments must be str, not: %r' % (arg,))
  |
  |def unified_diff(a, b, fromfile='', tofile='', fromfiledate='', tofiledate='', n=3,
  |                 lineterm='\n'):
  |    _check(a, b, fromfile, tofile, fromfiledate, tofiledate, lineterm)
  |    started = False
  |    for group in SequenceMatcher(None, a, b).get_grouped_opcodes(n):
  |        if not started:
  |            started = True
  |            fromdate = '\t%s' % fromfiledate if fromfiledate else ''
  |            todate = '\t%s' % tofiledate if tofiledate else ''
  |            yield '--- %s%s%s' % (fromfile, fromdate, lineterm)
  |            yield '+++ %s%s%s' % (tofile, todate, lineterm)
  |        first, last = group[0], group[-1]
  |        yield '@@ -%s +%s @@%s' % (_range_unified(first[1], last[2]),
  |                                   _range_unified(first[3], last[4]), lineterm)
  |        for tag, i1, i2, j1, j2 in group:
  |            if tag == 'equal':
  |                for line in a[i1:i2]:
  |                    yield ' ' + line
  |                continue
  |            if tag in ('replace', 'delete'):
  |                for line in a[i1:i2]:
  |                    yield '-' + line
  |            if tag in ('replace', 'insert'):
  |                for line in b[j1:j2]:
  |                    yield '+' + line
  |
  |def _range_context(start, stop):
  |    beginning = start + 1
  |    length = stop - start
  |    if not length:
  |        beginning -= 1
  |    if length <= 1:
  |        return '%d' % beginning
  |    return '%d,%d' % (beginning, beginning + length - 1)
  |
  |def context_diff(a, b, fromfile='', tofile='', fromfiledate='', tofiledate='', n=3,
  |                 lineterm='\n'):
  |    _check(a, b, fromfile, tofile, fromfiledate, tofiledate, lineterm)
  |    marks = dict(insert='+ ', delete='- ', replace='! ', equal='  ')
  |    started = False
  |    for group in SequenceMatcher(None, a, b).get_grouped_opcodes(n):
  |        if not started:
  |            started = True
  |            fromdate = '\t%s' % fromfiledate if fromfiledate else ''
  |            todate = '\t%s' % tofiledate if tofiledate else ''
  |            yield '*** %s%s%s' % (fromfile, fromdate, lineterm)
  |            yield '--- %s%s%s' % (tofile, todate, lineterm)
  |        first, last = group[0], group[-1]
  |        yield '***************' + lineterm
  |        yield '*** %s ****%s' % (_range_context(first[1], last[2]), lineterm)
  |        if any(tag in ('replace', 'delete') for tag, *rest in group):
  |            for tag, i1, i2, j1, j2 in group:
  |                if tag != 'insert':
  |                    for line in a[i1:i2]:
  |                        yield marks[tag] + line
  |        yield '--- %s ----%s' % (_range_context(first[3], last[4]), lineterm)
  |        if any(tag in ('replace', 'insert') for tag, *rest in group):
  |            for tag, i1, i2, j1, j2 in group:
  |                if tag != 'delete':
  |                    for line in b[j1:j2]:
  |                        yield marks[tag] + line
  |
  |def ndiff(a, b, linejunk=None, charjunk=IS_CHARACTER_JUNK):
  |    return Differ(linejunk, charjunk).compare(a, b)
  |
  |def restore(delta, which):
  |    tag = dict([(1, '- '), (2, '+ ')])[int(which)]
  |    for line in delta:
  |        if line[:2] in ('  ', tag):
  |            yield line[2:]"#

/-- Signs of markup as plain text. -/
def markup : String := r#"
  |import re as _re
  |_named = dict(lt='<', gt='>', amp='&', quot='"', apos="'", nbsp='\xa0', copy='\xa9',
  |              reg='\xae', hellip='\u2026', mdash='\u2014', ndash='\u2013', lsquo='\u2018',
  |              rsquo='\u2019', ldquo='\u201c', rdquo='\u201d', bull='\u2022', middot='\xb7',
  |              deg='\xb0', plusmn='\xb1', times='\xd7', divide='\xf7', euro='\u20ac',
  |              pound='\xa3', yen='\xa5', cent='\xa2', sect='\xa7', para='\xb6', laquo='\xab',
  |              raquo='\xbb', eacute='\xe9', egrave='\xe8', agrave='\xe0', aacute='\xe1',
  |              uuml='\xfc', ouml='\xf6', auml='\xe4', szlig='\xdf', ccedil='\xe7',
  |              ntilde='\xf1', trade='\u2122', larr='\u2190', rarr='\u2192', le='\u2264',
  |              ge='\u2265', ne='\u2260')
  |
  |def escape(s, quote=True):
  |    s = s.replace('&', '&amp;').replace('<', '&lt;').replace('>', '&gt;')
  |    if quote:
  |        s = s.replace('"', '&quot;').replace("'", '&#x27;')
  |    return s
  |
  |def _replaced(m):
  |    s = m.group(1)
  |    if s[0] == '#':
  |        n = int(s[2:].rstrip(';'), 16) if s[1] in 'xX' else int(s[1:].rstrip(';'))
  |        if n == 0 or 0xd800 <= n <= 0xdfff or n > 0x10ffff:
  |            return '\ufffd'
  |        return chr(n)
  |    name = s.rstrip(';')
  |    if name in _named and (s.endswith(';') or name in ('lt', 'gt', 'amp', 'quot', 'nbsp',
  |                                                       'copy', 'reg')):
  |        return _named[name]
  |    return '&' + s
  |
  |def unescape(s):
  |    if '&' not in s:
  |        return s
  |    return _re.sub('&(#[0-9]+;?|#[xX][0-9a-fA-F]+;?|[A-Za-z][A-Za-z0-9]*;?)', _replaced, s)"#

def addressLibraries : String := r#"
  |__path__ = []"#

def addressFaults : String := r#"
  |class URLError(OSError):
  |    def __init__(self, reason, filename=None):
  |        super().__init__(reason)
  |        self.reason = reason
  |
  |class HTTPError(URLError):
  |    pass"#

/-- Addresses and their parts. -/
def addresses : String := r#"
  |from collections import namedtuple as _namedtuple
  |_safe = frozenset('ABCDEFGHIJKLMNOPQRSTUVWXYZabcdefghijklmnopqrstuvwxyz0123456789_.-~')
  |_schemes = ('', 'ftp', 'http', 'gopher', 'nntp', 'imap', 'wais', 'file', 'https', 'shttp',
  |            'mms', 'prospero', 'rtsp', 'rtspu', 'sftp', 'svn', 'svn+ssh', 'ws', 'wss')
  |
  |def quote_from_bytes(bs, safe='/'):
  |    if not isinstance(bs, (bytes, bytearray)):
  |        raise TypeError('quote_from_bytes() expected bytes')
  |    if isinstance(safe, bytes):
  |        safe = safe.decode('ascii', 'ignore')
  |    return ''.join(chr(c) if c < 128 and (chr(c) in _safe or chr(c) in safe) else '%%%02X' % c
  |                   for c in bytes(bs))
  |
  |def quote(string, safe='/', encoding=None, errors=None):
  |    if isinstance(string, str):
  |        string = string.encode(encoding or 'utf-8', errors or 'strict')
  |    return quote_from_bytes(string, safe)
  |
  |def quote_plus(string, safe='', encoding=None, errors=None):
  |    if isinstance(string, str) and ' ' not in string:
  |        return quote(string, safe, encoding, errors)
  |    if isinstance(string, bytes) and b' ' not in string:
  |        return quote(string, safe)
  |    return quote(string, safe + ' ', encoding, errors).replace(' ', '+')
  |
  |def unquote_to_bytes(string):
  |    if isinstance(string, str):
  |        string = string.encode('utf-8')
  |    out = bytearray()
  |    i = 0
  |    while i < len(string):
  |        if string[i] == 37:
  |            try:
  |                out.append(int(string[i + 1:i + 3].decode('ascii'), 16))
  |                if len(string[i + 1:i + 3]) != 2:
  |                    raise ValueError
  |                i += 3
  |                continue
  |            except ValueError:
  |                pass
  |        out.append(string[i])
  |        i += 1
  |    return bytes(out)
  |
  |def unquote(string, encoding='utf-8', errors='replace'):
  |    if isinstance(string, bytes):
  |        return unquote_to_bytes(string).decode(encoding, errors)
  |    if '%' not in string:
  |        return string
  |    return unquote_to_bytes(string).decode(encoding, errors)
  |
  |def unquote_plus(string, encoding='utf-8', errors='replace'):
  |    return unquote(string.replace('+', ' '), encoding, errors)
  |
  |def urlencode(query, doseq=False, safe='', encoding=None, errors=None, quote_via=quote_plus):
  |    if hasattr(query, 'items'):
  |        query = query.items()
  |    def shown(v):
  |        if isinstance(v, bytes):
  |            return quote_via(v, safe)
  |        return quote_via(str(v), safe, encoding, errors)
  |    parts = []
  |    for k, v in query:
  |        if doseq and not isinstance(v, (str, bytes)):
  |            try:
  |                values = list(v)
  |            except TypeError:
  |                values = [v]
  |            for each in values:
  |                parts.append(shown(k) + '=' + shown(each))
  |        else:
  |            parts.append(shown(k) + '=' + shown(v))
  |    return '&'.join(parts)
  |
  |def parse_qsl(qs, keep_blank_values=False, strict_parsing=False, encoding='utf-8',
  |              errors='replace', max_num_fields=None, separator='&'):
  |    found = []
  |    for pair in qs.split(separator):
  |        if not pair and not strict_parsing:
  |            continue
  |        name, eq, value = pair.partition('=')
  |        if not eq:
  |            if strict_parsing:
  |                raise ValueError('bad query field: %r' % (pair,))
  |            if not keep_blank_values:
  |                continue
  |        if value or keep_blank_values:
  |            found.append((unquote_plus(name, encoding, errors),
  |                          unquote_plus(value, encoding, errors)))
  |    return found
  |
  |def parse_qs(qs, keep_blank_values=False, strict_parsing=False, encoding='utf-8',
  |             errors='replace', max_num_fields=None, separator='&'):
  |    found = dict()
  |    for name, value in parse_qsl(qs, keep_blank_values, strict_parsing, encoding, errors,
  |                                 max_num_fields, separator):
  |        found.setdefault(name, []).append(value)
  |    return found
  |
  |class _Net:
  |    @property
  |    def username(self):
  |        return self._user()[0]
  |    @property
  |    def password(self):
  |        return self._user()[1]
  |    def _user(self):
  |        info, at, rest = self.netloc.rpartition('@')
  |        if not at:
  |            return None, None
  |        name, colon, password = info.partition(':')
  |        return name, password if colon else None
  |    def _host(self):
  |        rest = self.netloc.rpartition('@')[2]
  |        front, bracket, inner = rest.partition('[')
  |        if bracket:
  |            host, bracket, port = inner.partition(']')
  |            return host, port.partition(':')[2] or None
  |        host, colon, port = rest.partition(':')
  |        return host, port or None
  |    @property
  |    def hostname(self):
  |        host = self._host()[0]
  |        return host.lower() if host else None
  |    @property
  |    def port(self):
  |        port = self._host()[1]
  |        if port is None:
  |            return None
  |        if not port.isdigit():
  |            raise ValueError('Port could not be cast to integer value as %r' % port)
  |        port = int(port)
  |        if not 0 <= port <= 65535:
  |            raise ValueError('Port out of range 0-65535')
  |        return port
  |
  |_SplitBase = _namedtuple('SplitResult', 'scheme netloc path query fragment')
  |_ParseBase = _namedtuple('ParseResult', 'scheme netloc path params query fragment')
  |_DefragBase = _namedtuple('DefragResult', 'url fragment')
  |
  |class SplitResult(_SplitBase, _Net):
  |    def geturl(self):
  |        return urlunsplit(self)
  |
  |class ParseResult(_ParseBase, _Net):
  |    def geturl(self):
  |        return urlunparse(self)
  |
  |class DefragResult(_DefragBase):
  |    def geturl(self):
  |        return self.url + '#' + self.fragment if self.fragment else self.url
  |
  |def urlsplit(url, scheme='', allow_fragments=True):
  |    url = url.lstrip().replace('\r', '').replace('\n', '').replace('\t', '')
  |    netloc = query = fragment = ''
  |    i = url.find(':')
  |    if i > 0 and url[0].isascii() and url[0].isalpha():
  |        if all(c.isascii() and (c.isalnum() or c in '+-.') for c in url[:i]):
  |            scheme, url = url[:i].lower(), url[i + 1:]
  |    if url[:2] == '//':
  |        end = min([k for k in (url.find(c, 2) for c in '/?#') if k >= 0] or [len(url)])
  |        netloc, url = url[2:end], url[end:]
  |        if ('[' in netloc) != (']' in netloc):
  |            raise ValueError('Invalid IPv6 URL')
  |    if allow_fragments and '#' in url:
  |        url, fragment = url.split('#', 1)
  |    if '?' in url:
  |        url, query = url.split('?', 1)
  |    return SplitResult(scheme, netloc, url, query, fragment)
  |
  |def urlparse(url, scheme='', allow_fragments=True):
  |    scheme, netloc, path, query, fragment = urlsplit(url, scheme, allow_fragments)
  |    params = ''
  |    if ';' in path:
  |        i = path.find(';', path.rfind('/')) if '/' in path else path.find(';')
  |        if i >= 0:
  |            path, params = path[:i], path[i + 1:]
  |    return ParseResult(scheme, netloc, path, params, query, fragment)
  |
  |def urlunparse(components):
  |    scheme, netloc, url, params, query, fragment = components
  |    if params:
  |        url = '%s;%s' % (url, params)
  |    return urlunsplit((scheme, netloc, url, query, fragment))
  |
  |def urlunsplit(components):
  |    scheme, netloc, url, query, fragment = components
  |    if netloc or scheme and scheme in _schemes and url[:2] != '//' and scheme == 'file':
  |        if url and url[:1] != '/':
  |            url = '/' + url
  |        url = '//' + (netloc or '') + url
  |    if scheme:
  |        url = scheme + ':' + url
  |    if query:
  |        url = url + '?' + query
  |    if fragment:
  |        url = url + '#' + fragment
  |    return url
  |
  |def urldefrag(url):
  |    parts = urlsplit(url)
  |    return DefragResult(urlunsplit(parts[:4] + ('',)), parts.fragment)
  |
  |def urljoin(base, url, allow_fragments=True):
  |    if not base:
  |        return url
  |    if not url:
  |        return base
  |    b = urlparse(base, '', allow_fragments)
  |    s = urlparse(url, b.scheme, allow_fragments)
  |    if s.scheme != b.scheme or s.scheme not in _schemes:
  |        return url
  |    if s.netloc:
  |        return urlunparse(s)
  |    if not s.path and not s.params:
  |        return urlunparse((s.scheme, b.netloc, b.path, b.params, s.query or b.query,
  |                           s.fragment))
  |    base_parts = b.path.split('/')
  |    if base_parts[-1] != '':
  |        del base_parts[-1]
  |    if s.path[:1] == '/':
  |        segments = s.path.split('/')
  |    else:
  |        segments = base_parts + s.path.split('/')
  |        segments[1:-1] = filter(None, segments[1:-1])
  |    resolved = []
  |    for seg in segments:
  |        if seg == '..':
  |            if resolved:
  |                resolved.pop()
  |        elif seg != '.':
  |            resolved.append(seg)
  |    if segments[-1] in ('.', '..'):
  |        resolved.append('')
  |    return urlunparse((s.scheme, b.netloc, '/'.join(resolved) or '/', s.params, s.query,
  |                       s.fragment))"#

/-- Sections of settings. -/
def settings : String := r#"
  |import os
  |import re
  |DEFAULTSECT = 'DEFAULT'
  |MAX_INTERPOLATION_DEPTH = 10
  |_UNSET = object()
  |
  |class Error(Exception):
  |    def __init__(self, msg=''):
  |        self.message = msg
  |        super().__init__(msg)
  |
  |class NoSectionError(Error):
  |    def __init__(self, section):
  |        super().__init__('No section: %r' % (section,))
  |        self.section = section
  |
  |class DuplicateSectionError(Error):
  |    def __init__(self, section, source=None, lineno=None):
  |        where = ''
  |        if source is not None:
  |            where = 'While reading from %r' % source
  |            if lineno is not None:
  |                where += ' [line %2d]' % lineno
  |            text = where + ': section %r already exists' % section
  |        else:
  |            text = 'Section %r already exists' % section
  |        super().__init__(text)
  |        self.section = section
  |
  |class DuplicateOptionError(Error):
  |    def __init__(self, section, option, source=None, lineno=None):
  |        text = 'option %r in section %r already exists' % (option, section)
  |        if source is not None:
  |            where = 'While reading from %r' % source
  |            if lineno is not None:
  |                where += ' [line %2d]' % lineno
  |            text = where + ': ' + text
  |        else:
  |            text = 'O' + text[1:]
  |        super().__init__(text)
  |        self.section = section
  |        self.option = option
  |
  |class NoOptionError(Error):
  |    def __init__(self, option, section):
  |        super().__init__('No option %r in section: %r' % (option, section))
  |        self.option = option
  |        self.section = section
  |
  |class InterpolationError(Error):
  |    def __init__(self, option, section, msg):
  |        super().__init__(msg)
  |        self.option = option
  |        self.section = section
  |
  |class InterpolationDepthError(InterpolationError):
  |    pass
  |
  |class InterpolationMissingOptionError(InterpolationError):
  |    pass
  |
  |class InterpolationSyntaxError(InterpolationError):
  |    pass
  |
  |class ParsingError(Error):
  |    def __init__(self, source):
  |        super().__init__('Source contains parsing errors: %r' % (source,))
  |        self.source = source
  |        self.errors = []
  |    def append(self, lineno, line):
  |        self.errors.append((lineno, line))
  |        self.message += '\n\t[line %2d]: %s' % (lineno, line)
  |        self.args = (self.message,)
  |
  |class MissingSectionHeaderError(ParsingError):
  |    def __init__(self, filename, lineno, line):
  |        Error.__init__(self, 'File contains no section headers.\nfile: %r, line: %d\n%r'
  |                       % (filename, lineno, line))
  |        self.source = filename
  |        self.lineno = lineno
  |        self.line = line
  |
  |class Interpolation:
  |    def before_get(self, parser, section, option, value, defaults):
  |        return value
  |    def before_set(self, parser, section, option, value):
  |        return value
  |
  |class BasicInterpolation(Interpolation):
  |    _name = re.compile(r'%\(([^)]+)\)s')
  |    def before_get(self, parser, section, option, value, defaults):
  |        return self._filled(parser, section, option, value, defaults, 1)
  |    def before_set(self, parser, section, option, value):
  |        rest = value.replace('%%', '')
  |        rest = self._name.sub('', rest)
  |        if '%' in rest:
  |            raise ValueError('invalid interpolation syntax in %r at position %d'
  |                             % (value, rest.find('%')))
  |        return value
  |    def _filled(self, parser, section, option, rest, given, depth):
  |        if depth > MAX_INTERPOLATION_DEPTH:
  |            raise InterpolationDepthError(option, section, 'Recursion limit exceeded in value '
  |                                          'substitution: option %r in section %r'
  |                                          % (option, section))
  |        parts = []
  |        while rest:
  |            p = rest.find('%')
  |            if p < 0:
  |                parts.append(rest)
  |                break
  |            parts.append(rest[:p])
  |            rest = rest[p:]
  |            c = rest[1:2]
  |            if c == '%':
  |                parts.append('%')
  |                rest = rest[2:]
  |            elif c == '(':
  |                m = self._name.match(rest)
  |                if m is None:
  |                    raise InterpolationSyntaxError(option, section, 'bad interpolation variable '
  |                                                   'reference %r' % rest)
  |                var = parser.optionxform(m.group(1))
  |                rest = rest[m.end():]
  |                try:
  |                    v = given[var]
  |                except KeyError:
  |                    raise InterpolationMissingOptionError(
  |                        option, section, 'Bad value substitution: option %r in section %r '
  |                        'contains an interpolation key %r which is not a valid option name.'
  |                        % (option, section, var)) from None
  |                parts.append(self._filled(parser, section, option, v, given, depth + 1))
  |            else:
  |                raise InterpolationSyntaxError(option, section, "'%%' must be followed by '%%' "
  |                                               "or '(', found: %r" % (rest,))
  |        return ''.join(parts)
  |
  |class ExtendedInterpolation(Interpolation):
  |    _name = re.compile(r'\$' + chr(92) + chr(123) + '([^' + chr(125) + ']+)' + chr(92)
  |                       + chr(125))
  |    def before_get(self, parser, section, option, value, defaults):
  |        def one(m):
  |            path = m.group(1).split(':')
  |            if len(path) == 1:
  |                return self.before_get(parser, section, option,
  |                                       defaults[parser.optionxform(path[0])], defaults)
  |            return parser.get(path[0], path[1])
  |        return self._name.sub(one, value).replace('$$', '$')
  |
  |class RawConfigParser:
  |    _boolean = dict([('1', True), ('yes', True), ('true', True), ('on', True), ('0', False),
  |                     ('no', False), ('false', False), ('off', False)])
  |    BOOLEAN_STATES = _boolean
  |    SECTCRE = re.compile(r'\[(?P<header>.+)\]', re.VERBOSE)
  |    _usual = Interpolation()
  |    def __init__(self, defaults=None, dict_type=dict, allow_no_value=False, *,
  |                 delimiters=('=', ':'), comment_prefixes=('#', ';'),
  |                 inline_comment_prefixes=None, strict=True, empty_lines_in_values=True,
  |                 default_section=DEFAULTSECT, interpolation=_UNSET, converters=_UNSET):
  |        self._sections = dict()
  |        self._defaults = dict()
  |        self._proxies = dict()
  |        self.default_section = default_section
  |        self._delimiters = tuple(delimiters)
  |        self._comments = tuple(comment_prefixes or ())
  |        self._inline = tuple(inline_comment_prefixes or ())
  |        self._strict = strict
  |        self._allow_no_value = allow_no_value
  |        self._empty = empty_lines_in_values
  |        self._interpolation = self._usual if interpolation is _UNSET else interpolation
  |        if self._interpolation is None:
  |            self._interpolation = Interpolation()
  |        if converters is not _UNSET:
  |            for name, function in converters.items():
  |                setattr(self, 'get' + name, self._converter(function))
  |        if defaults:
  |            for key, value in defaults.items():
  |                self._defaults[self.optionxform(key)] = None if value is None else str(value)
  |    def _converter(self, function):
  |        def getter(section, option, **kwargs):
  |            return self._get_conv(section, option, function, **kwargs)
  |        return getter
  |    def defaults(self):
  |        return self._defaults
  |    def sections(self):
  |        return list(self._sections)
  |    def add_section(self, section):
  |        if section == self.default_section:
  |            raise ValueError('Invalid section name: %r' % section)
  |        if section in self._sections:
  |            raise DuplicateSectionError(section)
  |        self._sections[section] = dict()
  |    def has_section(self, section):
  |        return section in self._sections
  |    def options(self, section):
  |        if section not in self._sections:
  |            raise NoSectionError(section) from None
  |        found = dict(self._sections[section])
  |        found.update(self._defaults)
  |        return list(found)
  |    def read(self, filenames, encoding=None):
  |        if isinstance(filenames, (str, bytes, os.PathLike)):
  |            filenames = [filenames]
  |        done = []
  |        for filename in filenames:
  |            try:
  |                with open(filename, encoding=encoding) as fp:
  |                    self._read(fp, filename)
  |            except OSError:
  |                continue
  |            done.append(os.fspath(filename))
  |        return done
  |    def read_file(self, f, source=None):
  |        if source is None:
  |            source = getattr(f, 'name', '<???>')
  |        self._read(f, source)
  |    def read_string(self, string, source='<string>'):
  |        self._read(string.splitlines(keepends=True), source)
  |    def read_dict(self, dictionary, source='<dict>'):
  |        seen = set()
  |        for section, keys in dictionary.items():
  |            section = str(section)
  |            try:
  |                self.add_section(section)
  |            except (DuplicateSectionError, ValueError):
  |                if self._strict and section in seen:
  |                    raise
  |            seen.add(section)
  |            for key, value in keys.items():
  |                key = self.optionxform(str(key))
  |                self.set(section, key, None if value is None else str(value))
  |    def optionxform(self, optionstr):
  |        return optionstr.lower()
  |    def _read(self, fp, fpname):
  |        cursect = None
  |        sectname = optname = None
  |        indent_level = 0
  |        seen = set()
  |        e = None
  |        for lineno, line in enumerate(fp, start=1):
  |            cut = len(line)
  |            for mark in self._inline:
  |                place = line.find(mark)
  |                while place >= 0:
  |                    if place == 0 or line[place - 1].isspace():
  |                        cut = min(cut, place)
  |                        break
  |                    place = line.find(mark, place + 1)
  |            if any(line.strip().startswith(mark) for mark in self._comments):
  |                value, commented = '', True
  |            else:
  |                value, commented = line[:cut].strip(), cut < len(line)
  |            if not value:
  |                if self._empty:
  |                    if not commented and cursect is not None and optname \
  |                            and cursect[optname] is not None:
  |                        cursect[optname].append('')
  |                else:
  |                    indent_level = 10 ** 9
  |                continue
  |            indent = len(line) - len(line.lstrip())
  |            if cursect is not None and optname and indent > indent_level:
  |                if cursect[optname] is None:
  |                    raise ParsingError(fpname)
  |                cursect[optname].append(value)
  |                continue
  |            indent_level = indent
  |            m = re.match(r'\[(?P<header>.+)\]', value)
  |            if m:
  |                sectname = m.group('header')
  |                if sectname in self._sections:
  |                    if self._strict and sectname in seen:
  |                        raise DuplicateSectionError(sectname, fpname, lineno)
  |                    cursect = self._sections[sectname]
  |                    seen.add(sectname)
  |                elif sectname == self.default_section:
  |                    cursect = self._defaults
  |                else:
  |                    cursect = self._sections[sectname] = dict()
  |                    seen.add(sectname)
  |                optname = None
  |            elif cursect is None:
  |                raise MissingSectionHeaderError(fpname, lineno, line)
  |            else:
  |                places = [(value.find(d), d) for d in self._delimiters if value.find(d) >= 0]
  |                if places:
  |                    place, mark = min(places)
  |                    optname, optval = value[:place], value[place + len(mark):]
  |                elif self._allow_no_value:
  |                    optname, optval = value, None
  |                else:
  |                    if e is None:
  |                        e = ParsingError(fpname)
  |                    e.append(lineno, repr(line))
  |                    continue
  |                if not optname:
  |                    if e is None:
  |                        e = ParsingError(fpname)
  |                    e.append(lineno, repr(line))
  |                optname = self.optionxform(optname.rstrip())
  |                if self._strict and (sectname, optname) in seen:
  |                    raise DuplicateOptionError(sectname, optname, fpname, lineno)
  |                seen.add((sectname, optname))
  |                cursect[optname] = None if optval is None else [optval.strip()]
  |        for options in [self._defaults] + list(self._sections.values()):
  |            for name, value in list(options.items()):
  |                if isinstance(value, list):
  |                    options[name] = '\n'.join(value).rstrip()
  |        if e:
  |            raise e
  |    def _unified(self, section, vars):
  |        if section not in self._sections and section != self.default_section:
  |            raise NoSectionError(section) from None
  |        found = dict(self._defaults)
  |        found.update(self._sections.get(section, dict()))
  |        for key, value in (vars or dict()).items():
  |            found[self.optionxform(key)] = None if value is None else str(value)
  |        return found
  |    def get(self, section, option, *, raw=False, vars=None, fallback=_UNSET):
  |        try:
  |            d = self._unified(section, vars)
  |        except NoSectionError:
  |            if fallback is _UNSET:
  |                raise
  |            return fallback
  |        option = self.optionxform(option)
  |        if option not in d:
  |            if fallback is _UNSET:
  |                raise NoOptionError(option, section)
  |            return fallback
  |        value = d[option]
  |        if raw or value is None:
  |            return value
  |        return self._interpolation.before_get(self, section, option, value, d)
  |    def _get_conv(self, section, option, conv, *, raw=False, vars=None, fallback=_UNSET):
  |        try:
  |            return conv(self.get(section, option, raw=raw, vars=vars))
  |        except (NoSectionError, NoOptionError):
  |            if fallback is _UNSET:
  |                raise
  |            return fallback
  |    def getint(self, section, option, **kwargs):
  |        return self._get_conv(section, option, int, **kwargs)
  |    def getfloat(self, section, option, **kwargs):
  |        return self._get_conv(section, option, float, **kwargs)
  |    def getboolean(self, section, option, **kwargs):
  |        return self._get_conv(section, option, self._truth, **kwargs)
  |    def _truth(self, value):
  |        if value.lower() not in self.BOOLEAN_STATES:
  |            raise ValueError('Not a boolean: %s' % value)
  |        return self.BOOLEAN_STATES[value.lower()]
  |    def items(self, section=_UNSET, raw=False, vars=None):
  |        if section is _UNSET:
  |            return [(name, self[name]) for name in self]
  |        d = self._unified(section, vars)
  |        return [(option, d[option] if raw or d[option] is None else
  |                 self._interpolation.before_get(self, section, option, d[option], d))
  |                for option in d]
  |    def has_option(self, section, option):
  |        if not section or section == self.default_section:
  |            return self.optionxform(option) in self._defaults
  |        if section not in self._sections:
  |            return False
  |        option = self.optionxform(option)
  |        return option in self._sections[section] or option in self._defaults
  |    def set(self, section, option, value=None):
  |        if value:
  |            value = self._interpolation.before_set(self, section, option, value)
  |        if not section or section == self.default_section:
  |            target = self._defaults
  |        elif section in self._sections:
  |            target = self._sections[section]
  |        else:
  |            raise NoSectionError(section) from None
  |        target[self.optionxform(option)] = value
  |    def write(self, fp, space_around_delimiters=True):
  |        d = ' %s ' % self._delimiters[0] if space_around_delimiters else self._delimiters[0]
  |        if self._defaults:
  |            self._write_section(fp, self.default_section, self._defaults.items(), d)
  |        for section in self._sections:
  |            self._write_section(fp, section, self._sections[section].items(), d)
  |    def _write_section(self, fp, name, items, delimiter):
  |        fp.write('[%s]\n' % name)
  |        for key, value in items:
  |            if value is not None or not self._allow_no_value:
  |                value = delimiter + str(value).replace('\n', '\n\t')
  |            else:
  |                value = ''
  |            fp.write('%s%s\n' % (key, value))
  |        fp.write('\n')
  |    def remove_option(self, section, option):
  |        if not section or section == self.default_section:
  |            target = self._defaults
  |        elif section in self._sections:
  |            target = self._sections[section]
  |        else:
  |            raise NoSectionError(section) from None
  |        option = self.optionxform(option)
  |        existed = option in target
  |        if existed:
  |            del target[option]
  |        return existed
  |    def remove_section(self, section):
  |        existed = section in self._sections
  |        if existed:
  |            del self._sections[section]
  |        return existed
  |    def __getitem__(self, key):
  |        if key != self.default_section and not self.has_section(key):
  |            raise KeyError(key)
  |        return SectionProxy(self, key)
  |    def __setitem__(self, key, value):
  |        if key in self and self[key] is value:
  |            return
  |        if key == self.default_section:
  |            self._defaults.clear()
  |        elif key in self._sections:
  |            self._sections[key].clear()
  |        self.read_dict(dict([(key, value)]))
  |    def __delitem__(self, key):
  |        if key == self.default_section:
  |            raise ValueError('Cannot remove the default section.')
  |        if not self.has_section(key):
  |            raise KeyError(key)
  |        self.remove_section(key)
  |    def __contains__(self, key):
  |        return key == self.default_section or self.has_section(key)
  |    def __len__(self):
  |        return len(self._sections) + 1
  |    def __iter__(self):
  |        yield self.default_section
  |        yield from list(self._sections)
  |    def keys(self):
  |        return list(self)
  |    def values(self):
  |        return [self[name] for name in self]
  |
  |class ConfigParser(RawConfigParser):
  |    _usual = BasicInterpolation()
  |    def set(self, section, option, value=None):
  |        if not isinstance(option, str):
  |            raise TypeError('option keys must be strings')
  |        if not self._allow_no_value or value:
  |            if not isinstance(value, str):
  |                raise TypeError('option values must be strings')
  |        super().set(section, option, value)
  |    def add_section(self, section):
  |        if not isinstance(section, str):
  |            raise TypeError('section names must be strings')
  |        super().add_section(section)
  |
  |SafeConfigParser = ConfigParser
  |
  |class SectionProxy:
  |    def __init__(self, parser, name):
  |        self._parser = parser
  |        self._name = name
  |    parser = property(lambda self: self._parser)
  |    name = property(lambda self: self._name)
  |    def __repr__(self):
  |        return '<Section: %s>' % self._name
  |    def _options(self):
  |        if self._name != self._parser.default_section:
  |            return self._parser.options(self._name)
  |        return list(self._parser.defaults())
  |    def __getitem__(self, key):
  |        if not self._parser.has_option(self._name, key):
  |            raise KeyError(key)
  |        return self._parser.get(self._name, key)
  |    def __setitem__(self, key, value):
  |        self._parser.set(self._name, key, value)
  |    def __delitem__(self, key):
  |        if not (self._parser.has_option(self._name, key)
  |                and self._parser.remove_option(self._name, key)):
  |            raise KeyError(key)
  |    def __contains__(self, key):
  |        return self._parser.has_option(self._name, key)
  |    def __len__(self):
  |        return len(self._options())
  |    def __iter__(self):
  |        return iter(self._options())
  |    def keys(self):
  |        return self._options()
  |    def items(self):
  |        return [(key, self[key]) for key in self._options()]
  |    def values(self):
  |        return [self[key] for key in self._options()]
  |    def get(self, option, fallback=None, *, raw=False, vars=None, **kwargs):
  |        return self._parser.get(self._name, option, raw=raw, vars=vars, fallback=fallback)
  |    def getint(self, option, fallback=None, **kwargs):
  |        return self._parser.getint(self._name, option, fallback=fallback, **kwargs)
  |    def getfloat(self, option, fallback=None, **kwargs):
  |        return self._parser.getfloat(self._name, option, fallback=fallback, **kwargs)
  |    def getboolean(self, option, fallback=None, **kwargs):
  |        return self._parser.getboolean(self._name, option, fallback=fallback, **kwargs)"#

/-- Values laid out over lines. -/
def layout : String := r#"
  |import sys
  |
  |def pprint(object, stream=None, indent=1, width=80, depth=None, *, compact=False,
  |           sort_dicts=True, underscore_numbers=False):
  |    PrettyPrinter(indent, width, depth, stream, compact=compact,
  |                  sort_dicts=sort_dicts).pprint(object)
  |
  |def pp(object, *args, sort_dicts=False, **kwargs):
  |    pprint(object, *args, sort_dicts=sort_dicts, **kwargs)
  |
  |def pformat(object, indent=1, width=80, depth=None, *, compact=False, sort_dicts=True,
  |            underscore_numbers=False):
  |    return PrettyPrinter(indent, width, depth, compact=compact,
  |                         sort_dicts=sort_dicts).pformat(object)
  |
  |def saferepr(object):
  |    return PrettyPrinter()._plain(object, 1)
  |
  |def isreadable(object):
  |    return True
  |
  |def isrecursive(object):
  |    return False
  |
  |def _sorted(items):
  |    try:
  |        return sorted(items)
  |    except TypeError:
  |        return sorted(items, key=lambda x: (str(type(x)), str(x)))
  |
  |class PrettyPrinter:
  |    def __init__(self, indent=1, width=80, depth=None, stream=None, *, compact=False,
  |                 sort_dicts=True, underscore_numbers=False):
  |        self._indent = int(indent)
  |        self._width = int(width)
  |        self._depth = depth
  |        self._stream = stream
  |        self._compact = bool(compact)
  |        self._sort = sort_dicts
  |    def pprint(self, object):
  |        (self._stream or sys.stdout).write(self.pformat(object) + '\n')
  |    def pformat(self, object):
  |        parts = []
  |        self._format(object, parts, 0, 0, 0)
  |        return ''.join(parts)
  |    def _items(self, object):
  |        items = list(object.items())
  |        if not self._sort:
  |            return items
  |        try:
  |            return sorted(items, key=lambda item: item[0])
  |        except TypeError:
  |            return sorted(items, key=lambda item: (str(type(item[0])), str(item[0])))
  |    def _plain(self, object, level):
  |        kind = type(object)
  |        if self._depth and level > self._depth and kind in (dict, list, tuple) and object:
  |            return dict([(dict, chr(123) + '...' + chr(125)), (list, '[...]'),
  |                         (tuple, '(...)')])[kind]
  |        if kind is dict:
  |            parts = ['%s: %s' % (self._plain(k, level + 1), self._plain(v, level + 1))
  |                     for k, v in self._items(object)]
  |            return chr(123) + ', '.join(parts) + chr(125)
  |        if kind is list:
  |            return '[' + ', '.join(self._plain(v, level + 1) for v in object) + ']'
  |        if kind is tuple:
  |            inner = ', '.join(self._plain(v, level + 1) for v in object)
  |            return '(' + inner + (',)' if len(object) == 1 else ')')
  |        return repr(object)
  |    def _format(self, object, parts, indent, allowance, level):
  |        level += 1
  |        text = self._plain(object, level)
  |        if len(text) > self._width - indent - allowance:
  |            kind = type(object)
  |            maker = kind.__repr__
  |            if kind is dict and object:
  |                self._dict(object, parts, indent, allowance, level)
  |                return
  |            if kind in (list, tuple) and object:
  |                opening, closing = ('[', ']') if kind is list else ('(', ')')
  |                if kind is tuple and len(object) == 1:
  |                    closing = ',)'
  |                parts.append(opening)
  |                self._values(object, parts, indent, allowance + len(closing), level)
  |                parts.append(closing)
  |                return
  |            if kind in (set, frozenset) and object:
  |                if kind is set:
  |                    opening, closing = chr(123), chr(125)
  |                else:
  |                    opening, closing = 'frozenset(' + chr(123), chr(125) + ')'
  |                    indent += len('frozenset(')
  |                parts.append(opening)
  |                self._values(_sorted(object), parts, indent, allowance + len(closing), level)
  |                parts.append(closing)
  |                return
  |            if kind is str:
  |                self._text(object, parts, indent, allowance, level)
  |                return
  |            if hasattr(object, '__dataclass_fields__'):
  |                self._fields(object, parts, indent, allowance, level)
  |                return
  |        parts.append(text)
  |    def _fields(self, object, parts, indent, allowance, level):
  |        name = type(object).__name__
  |        indent += len(name) + 1
  |        pairs = [(f, getattr(object, f)) for f in object.__dataclass_fields__]
  |        parts.append(name + '(')
  |        for i, (key, value) in enumerate(pairs):
  |            last = i == len(pairs) - 1
  |            parts.append(key + '=')
  |            self._format(value, parts, indent + len(key) + 1, allowance if last else 1, level)
  |            if not last:
  |                parts.append(',\n' + ' ' * indent)
  |        parts.append(')')
  |    def _dict(self, object, parts, indent, allowance, level):
  |        parts.append(chr(123))
  |        if self._indent > 1:
  |            parts.append((self._indent - 1) * ' ')
  |        items = self._items(object)
  |        inner = indent + self._indent
  |        for i, (key, value) in enumerate(items):
  |            last = i == len(items) - 1
  |            shown = self._plain(key, level + 1)
  |            parts.append(shown + ': ')
  |            self._format(value, parts, inner + len(shown) + 2, allowance + 1 if last else 1,
  |                         level)
  |            if not last:
  |                parts.append(',\n' + ' ' * inner)
  |        parts.append(chr(125))
  |    def _values(self, items, parts, indent, allowance, level):
  |        indent += self._indent
  |        if self._indent > 1:
  |            parts.append((self._indent - 1) * ' ')
  |        delimnl = ',\n' + ' ' * indent
  |        delim = ''
  |        width = max_width = self._width - indent + 1
  |        items = list(items)
  |        for i, item in enumerate(items):
  |            last = i == len(items) - 1
  |            if last:
  |                max_width -= allowance
  |                width -= allowance
  |            if self._compact:
  |                shown = self._plain(item, level + 1)
  |                w = len(shown) + 2
  |                if width < w:
  |                    width = max_width
  |                    if delim:
  |                        delim = delimnl
  |                if width >= w:
  |                    width -= w
  |                    parts.append(delim)
  |                    delim = ', '
  |                    parts.append(shown)
  |                    continue
  |            parts.append(delim)
  |            delim = delimnl
  |            self._format(item, parts, indent, allowance if last else 1, level)
  |    def _text(self, object, parts, indent, allowance, level):
  |        import re
  |        if not object:
  |            parts.append(repr(object))
  |            return
  |        chunks = []
  |        lines = object.splitlines(True)
  |        if level == 1:
  |            indent += 1
  |            allowance += 1
  |        max_width1 = max_width = self._width - indent
  |        for i, line in enumerate(lines):
  |            shown = repr(line)
  |            if i == len(lines) - 1:
  |                max_width1 -= allowance
  |            if len(shown) <= max_width1:
  |                chunks.append(shown)
  |            else:
  |                words = re.findall(r'\S*\s*', line)
  |                words.pop()
  |                max_width2 = max_width
  |                current = ''
  |                for j, part in enumerate(words):
  |                    candidate = current + part
  |                    if j == len(words) - 1 and i == len(lines) - 1:
  |                        max_width2 -= allowance
  |                    if len(repr(candidate)) > max_width2:
  |                        if current:
  |                            chunks.append(repr(current))
  |                        current = part
  |                    else:
  |                        current = candidate
  |                if current:
  |                    chunks.append(repr(current))
  |        if len(chunks) == 1:
  |            parts.append(chunks[0])
  |            return
  |        if level == 1:
  |            parts.append('(')
  |        parts.append(('\n' + ' ' * indent).join(chunks))
  |        if level == 1:
  |            parts.append(')')"#

/-- Codings of texts. -/
def codings : String := r#"
  |import builtins as _builtins
  |BOM_UTF8 = b'\xef\xbb\xbf'
  |BOM_UTF16_LE = b'\xff\xfe'
  |BOM_UTF16_BE = b'\xfe\xff'
  |BOM_UTF16 = BOM = BOM_LE = BOM_UTF16_LE
  |BOM_BE = BOM_UTF16_BE
  |BOM_UTF32_LE = b'\xff\xfe\x00\x00'
  |BOM_UTF32_BE = b'\x00\x00\xfe\xff'
  |BOM_UTF32 = BOM_UTF32_LE
  |
  |def open(filename, mode='r', encoding=None, errors='strict', buffering=-1):
  |    if encoding is None:
  |        return _builtins.open(filename, mode, buffering)
  |    return _builtins.open(filename, mode.replace('b', ''), encoding=encoding, errors=errors,
  |                          newline='\n')
  |
  |_special = ('rot13', 'rot_13', 'hex', 'hex_codec', 'base64', 'base64_codec')
  |
  |def encode(obj, encoding='utf-8', errors='strict'):
  |    if encoding in ('rot13', 'rot_13'):
  |        return _rot13(obj)
  |    if encoding in ('hex', 'hex_codec'):
  |        return bytes(obj).hex().encode()
  |    if encoding in ('base64', 'base64_codec'):
  |        import base64
  |        return base64.encodebytes(obj)
  |    return obj.encode(encoding, errors)
  |
  |def decode(obj, encoding='utf-8', errors='strict'):
  |    if encoding in ('rot13', 'rot_13'):
  |        return _rot13(obj)
  |    if encoding in ('hex', 'hex_codec'):
  |        return bytes.fromhex(bytes(obj).decode())
  |    if encoding in ('base64', 'base64_codec'):
  |        import base64
  |        return base64.decodebytes(obj)
  |    return bytes(obj).decode(encoding, errors)
  |
  |def _rot13(text):
  |    small = 'abcdefghijklmnopqrstuvwxyz'
  |    table = str.maketrans(small + small.upper(),
  |                          small[13:] + small[:13] + (small[13:] + small[:13]).upper())
  |    return text.translate(table)
  |
  |class CodecInfo:
  |    def __init__(self, name):
  |        self.name = name
  |    def encode(self, input, errors='strict'):
  |        return input.encode(self.name, errors), len(input)
  |    def decode(self, input, errors='strict'):
  |        return bytes(input).decode(self.name, errors), len(input)
  |
  |def lookup(encoding):
  |    b''.decode(encoding)
  |    name = encoding.lower().replace('_', '-')
  |    return CodecInfo(dict(utf8='utf-8', latin1='iso8859-1').get(name, name))
  |
  |def getreader(encoding):
  |    def make(stream, errors='strict'):
  |        import io
  |        return io.TextIOWrapper(stream, encoding, errors, newline='')
  |    return make
  |
  |def getwriter(encoding):
  |    def make(stream, errors='strict'):
  |        import io
  |        return io.TextIOWrapper(stream, encoding, errors, newline='')
  |    return make
  |
  |def getincrementaldecoder(encoding):
  |    class Decoder:
  |        def __init__(self, errors='strict'):
  |            self.errors = errors
  |            self._kept = b''
  |        def decode(self, input, final=False):
  |            data = self._kept + bytes(input)
  |            self._kept = b''
  |            if final:
  |                return data.decode(encoding, self.errors)
  |            for cut in range(4):
  |                try:
  |                    text = data[:len(data) - cut].decode(encoding, 'strict')
  |                    self._kept = data[len(data) - cut:]
  |                    return text
  |                except UnicodeDecodeError:
  |                    pass
  |            return data.decode(encoding, self.errors)
  |    return Decoder
  |
  |def register_error(name, handler):
  |    pass"#

/-- Facts about characters. -/
def characters : String := r#"
  |unidata_version = '14.0.0'
  |
  |def normalize(form, unistr):
  |    if unistr.isascii():
  |        return unistr
  |    found = []
  |    for c in unistr:
  |        plain = _plain.get(c)
  |        if plain is None or form in ('NFC', 'NFKC'):
  |            found.append(c)
  |        else:
  |            found.append(plain)
  |    return ''.join(found)
  |
  |_plain = dict()
  |for _mark, _made, _from in (('\u0300', '\xc0\xc8\xcc\xd2\xd9\xe0\xe8\xec\xf2\xf9', 'AEIOUaeiou'),
  |                            ('\u0301', '\xc1\xc9\xcd\xd3\xda\xdd\xe1\xe9\xed\xf3\xfa\xfd',
  |                             'AEIOUYaeiouy'),
  |                            ('\u0302', '\xc2\xca\xce\xd4\xdb\xe2\xea\xee\xf4\xfb', 'AEIOUaeiou'),
  |                            ('\u0303', '\xc3\xd1\xd5\xe3\xf1\xf5', 'ANOano'),
  |                            ('\u0308', '\xc4\xcb\xcf\xd6\xdc\xe4\xeb\xef\xf6\xfc\xff',
  |                             'AEIOUaeiouy'),
  |                            ('\u0327', '\xc7\xe7', 'Cc'), ('\u030a', '\xc5\xe5', 'Aa')):
  |    for _c, _f in zip(_made, _from):
  |        _plain[_c] = _f + _mark
  |
  |def combining(chr):
  |    return 230 if '\u0300' <= chr <= '\u036f' else 0
  |
  |def category(chr):
  |    if chr.isupper():
  |        return 'Lu'
  |    if chr.islower():
  |        return 'Ll'
  |    if chr.isdecimal():
  |        return 'Nd'
  |    if '\u0300' <= chr <= '\u036f':
  |        return 'Mn'
  |    if chr.isalpha():
  |        return 'Lo'
  |    if ord(chr) < 32 or 127 <= ord(chr) < 160:
  |        return 'Cc'
  |    if chr in ' \xa0' or '\u2000' <= chr <= '\u200a':
  |        return 'Zs'
  |    if chr == '_':
  |        return 'Pc'
  |    if chr == '-':
  |        return 'Pd'
  |    if chr in '([' + chr_open:
  |        return 'Ps'
  |    if chr in ')]' + chr_close:
  |        return 'Pe'
  |    if chr in '+<=>|~':
  |        return 'Sm'
  |    if chr in '$\xa2\xa3\xa4\xa5':
  |        return 'Sc'
  |    if chr in '^`':
  |        return 'Sk'
  |    return 'Po'
  |
  |chr_open, chr_close = chr(123), chr(125)
  |
  |def decimal(chr, default=None):
  |    return int(chr)
  |
  |def digit(chr, default=None):
  |    return int(chr)
  |
  |def numeric(chr, default=None):
  |    return float(int(chr))
  |
  |def east_asian_width(chr):
  |    n = ord(chr)
  |    if 0x1100 <= n <= 0x115f or 0x2e80 <= n <= 0xa4cf or 0xac00 <= n <= 0xd7a3 \
  |            or 0xf900 <= n <= 0xfaff or 0xfe30 <= n <= 0xfe6f or 0xff00 <= n <= 0xff60 \
  |            or 0x1f300 <= n <= 0x1faff or 0x20000 <= n <= 0x3fffd:
  |        return 'W'
  |    return 'Na' if n < 127 else 'N'"#

/-- Values that literals write. -/
def literals : String := r#"
  |def literal_eval(node_or_string):
  |    return _Reader(node_or_string.lstrip(' \t')).whole()
  |
  |class _Reader:
  |    def __init__(self, text):
  |        self.text = text
  |        self.place = 0
  |    def bad(self):
  |        raise ValueError('malformed node or string')
  |    def blank(self):
  |        while self.text[self.place:self.place + 1].isspace():
  |            self.place += 1
  |    def next(self):
  |        self.blank()
  |        return self.text[self.place:self.place + 1]
  |    def take(self, c):
  |        if self.next() != c:
  |            raise SyntaxError('invalid syntax')
  |        self.place += 1
  |    def whole(self):
  |        value = self.value()
  |        if self.next() == ',':
  |            values = [value]
  |            while self.next() == ',':
  |                self.place += 1
  |                if not self.next():
  |                    break
  |                values.append(self.value())
  |            value = tuple(values)
  |        if self.next():
  |            raise SyntaxError('invalid syntax')
  |        return value
  |    def value(self):
  |        c = self.next()
  |        if not c:
  |            raise SyntaxError('invalid syntax')
  |        if c == '(':
  |            return self.grouped()
  |        if c == '[':
  |            self.place += 1
  |            return self.several(']')[0]
  |        if c == chr(123):
  |            return self.braced()
  |        if c in '+-':
  |            self.place += 1
  |            value = self.value()
  |            if not isinstance(value, (int, float)) or isinstance(value, bool):
  |                self.bad()
  |            return -value if c == '-' else value
  |        if c.isdigit() or c == '.':
  |            return self.number()
  |        return self.word()
  |    def several(self, end):
  |        values = []
  |        comma = False
  |        while self.next() != end:
  |            values.append(self.value())
  |            comma = self.next() == ','
  |            if comma:
  |                self.place += 1
  |            elif self.next() != end:
  |                raise SyntaxError('invalid syntax')
  |        self.take(end)
  |        return values, comma
  |    def grouped(self):
  |        self.place += 1
  |        values, comma = self.several(')')
  |        if len(values) == 1 and not comma:
  |            return values[0]
  |        return tuple(values)
  |    def braced(self):
  |        self.place += 1
  |        end = chr(125)
  |        if self.next() == end:
  |            self.place += 1
  |            return dict()
  |        first = self.value()
  |        if self.next() != ':':
  |            values = [first]
  |            if self.next() == ',':
  |                self.place += 1
  |                values += self.several(end)[0]
  |            else:
  |                self.take(end)
  |            return set(values)
  |        self.place += 1
  |        found = dict()
  |        found[first] = self.value()
  |        while self.next() == ',':
  |            self.place += 1
  |            if self.next() == end:
  |                break
  |            key = self.value()
  |            self.take(':')
  |            found[key] = self.value()
  |        self.take(end)
  |        return found
  |    def number(self):
  |        start = self.place
  |        text = self.text
  |        while self.place < len(text):
  |            c = text[self.place]
  |            if not (c.isalnum() or c in '._'):
  |                if not (c in '+-' and text[self.place - 1] in 'eE'
  |                        and text[start:start + 2].lower() != '0x'):
  |                    break
  |            self.place += 1
  |        digits = text[start:self.place]
  |        try:
  |            return int(digits, 0)
  |        except ValueError:
  |            pass
  |        try:
  |            return float(digits)
  |        except ValueError:
  |            raise SyntaxError('invalid decimal literal') from None
  |    def word(self):
  |        start = self.place
  |        text = self.text
  |        while self.place < len(text) and (text[self.place].isalnum()
  |                                          or text[self.place] == '_'):
  |            self.place += 1
  |        word = text[start:self.place]
  |        c = text[self.place:self.place + 1]
  |        if c in ('"', "'") and word.lower() in ('', 'r', 'b', 'u', 'br', 'rb'):
  |            value = self.quoted(start)
  |            while self.next() in ('"', "'"):
  |                value += self.quoted(self.place)
  |            return value
  |        known = dict(None_=None, True_=True, False_=False)
  |        if word + '_' in known:
  |            return known[word + '_']
  |        if word == 'set' and self.next() == '(':
  |            self.place += 1
  |            self.take(')')
  |            return set()
  |        if not word:
  |            raise SyntaxError('invalid syntax')
  |        self.bad()
  |    def quoted(self, start):
  |        text = self.text
  |        mark = text[self.place]
  |        if text[self.place:self.place + 3] == mark * 3:
  |            mark = mark * 3
  |        i = self.place + len(mark)
  |        while text[i:i + len(mark)] != mark:
  |            if i >= len(text):
  |                raise SyntaxError('unterminated string literal')
  |            i += 2 if text[i] == '\\' else 1
  |        self.place = i + len(mark)
  |        return eval(text[start:self.place])"#

/-- The ways of a region. -/
def locales : String := r#"
  |LC_CTYPE, LC_NUMERIC, LC_TIME, LC_COLLATE, LC_MONETARY, LC_MESSAGES, LC_ALL = range(7)
  |
  |class Error(Exception):
  |    pass
  |
  |def setlocale(category, locale=None):
  |    if locale in (None, ''):
  |        return 'C.UTF-8'
  |    if locale in ('C', 'POSIX', 'C.UTF-8', 'C.utf8'):
  |        return locale
  |    raise Error('unsupported locale setting')
  |
  |def getlocale(category=LC_CTYPE):
  |    return ('en_US', 'UTF-8')
  |
  |def getdefaultlocale():
  |    return ('en_US', 'UTF-8')
  |
  |def getpreferredencoding(do_setlocale=True):
  |    return 'UTF-8'
  |
  |def getencoding():
  |    return 'UTF-8'
  |
  |def localeconv():
  |    return dict(decimal_point='.', thousands_sep='', grouping=[])
  |
  |def strcoll(a, b):
  |    return (a > b) - (a < b)
  |
  |def strxfrm(s):
  |    return s
  |
  |def format_string(f, val, grouping=False, monetary=False):
  |    return f % val
  |
  |def atof(string, func=float):
  |    return func(string)
  |
  |def atoi(string):
  |    return int(string)
  |
  |def str(val):
  |    return '%.12g' % val"#

end BuiltinWrappers.Script.Indented.Library
